import Gatehouse.Config.Load
import Gatehouse.Proofs.Outcome
import Mathlib.Data.List.Lattice

/-!
# Settings by their keys

A loader keeps values and origins in two tables.  What the tables say
together is a list of settings, and here are the operations on such lists:
naming the settings of one source, looking a key up, joining two lists
strictly, and laying one list over another.
-/

namespace Gatehouse.Config

open Gatehouse.Outcome
open Gatehouse.Yaml

/-- The settings of a source, each with its origin. -/
def ownEntries (origin : String) (own : Mapping) :
    Except Error (List Entry) :=
  List.mapM
    (fun (entry : Value × Value) =>
      match entry.1 with
      | .string key => .ok ⟨key, entry.2, origin⟩
      | key => .error (.invalidKey origin key))
    own

/-- The entry of a key. -/
def entryOf? (entries : List Entry) (key : String) : Option Entry :=
  entries.find? (·.key == key)

/-- The settings of both, unless a key is in both. -/
def joinEntries (entries : List Entry) :
    List Entry → Except Error (List Entry)
  | [] => .ok entries
  | entry :: rest =>
    match entryOf? entries entry.key with
    | some first => .error (.conflict entry.key first.origin entry.origin)
    | none => joinEntries (entries ++ [entry]) rest

/-- The settings with one of them set, in its place or at the end. -/
def putEntry (entries : List Entry) (entry : Entry) : List Entry :=
  if entries.any (·.key == entry.key) then
    entries.map fun held => if held.key == entry.key then entry else held
  else entries ++ [entry]

/-- The lower settings with all upper ones set. -/
def replaceEntries (lower upper : List Entry) : List Entry :=
  upper.foldl putEntry lower

/-- What is reported when upper settings replace lower ones. -/
def replacementEvents (lower upper : List Entry) : List Event :=
  upper.filterMap fun entry =>
    (entryOf? lower entry.key).map fun replaced =>
      .debug "Environment override"
        [("key", entry.key), ("replaced", replaced.origin)]

/-- The keys of some settings, in order. -/
def keysOf (entries : List Entry) : List String :=
  entries.map (·.key)

@[simp]
theorem keysOf_nil : keysOf [] = [] := rfl

@[simp]
theorem keysOf_cons (entry : Entry) (entries : List Entry) :
    keysOf (entry :: entries) = entry.key :: keysOf entries := rfl

@[simp]
theorem keysOf_append (former latter : List Entry) :
    keysOf (former ++ latter) = keysOf former ++ keysOf latter := by
  simp [keysOf]

theorem nodup_keysOf_concat {entries : List Entry}
    (distinct : (keysOf entries).Nodup) (entry : Entry)
    (absent : entry.key ∉ keysOf entries) :
    (keysOf (entries ++ [entry])).Nodup := by
  rw [keysOf_append, List.nodup_append]
  refine ⟨distinct, List.pairwise_singleton _ _, ?_⟩
  rintro key member other new rfl
  obtain rfl := List.mem_singleton.mp new
  exact absent member

theorem mem_keysOf {entries : List Entry} {key : String} :
    key ∈ keysOf entries ↔ ∃ entry ∈ entries, entry.key = key := by
  simp [keysOf]

/-! ## Naming the settings of a source -/

/-- Settings by their keys, all from one source. -/
def fromSource (origin : String) (settings : List (String × Value)) :
    List Entry :=
  settings.map fun setting => ⟨setting.1, setting.2, origin⟩

@[simp]
theorem keysOf_fromSource (origin : String)
    (settings : List (String × Value)) :
    keysOf (fromSource origin settings) = settings.map Prod.fst := by
  simp [keysOf, fromSource]

/-- A mapping whose keys are the given texts. -/
def namedMapping (settings : List (String × Value)) : Mapping :=
  settings.map fun setting => (.string setting.1, setting.2)

theorem namedMapping_injective : Function.Injective namedMapping := by
  apply Function.Injective.list_map
  rintro ⟨key, value⟩ ⟨otherKey, otherValue⟩ equal
  simpa using equal

theorem ownEntries_cons_string (origin key : String) (value : Value)
    (rest : Mapping) :
    ownEntries origin ((.string key, value) :: rest) =
      (ownEntries origin rest).map (⟨key, value, origin⟩ :: ·) := by
  cases named : ownEntries origin rest with
  | error cause =>
      rw [ownEntries] at named ⊢
      rw [List.mapM_cons, named]
      rfl
  | ok entries =>
      rw [ownEntries] at named ⊢
      rw [List.mapM_cons, named]
      rfl

/-- The settings of a source get names exactly if all keys are texts. -/
theorem ownEntries_eq_ok_iff {origin : String} {own : Mapping}
    {entries : List Entry} :
    ownEntries origin own = .ok entries ↔
      ∃ settings, own = namedMapping settings ∧
        entries = fromSource origin settings := by
  rw [ownEntries]
  rw [mapM_eq_ok_iff]
  constructor
  · intro each
    induction each with
    | nil => exact ⟨[], rfl, rfl⟩
    | @cons entry named rest others this _ induction =>
        rcases induction with ⟨settings, rfl, rfl⟩
        rcases entry with ⟨key, value⟩
        cases key with
        | string key =>
            rw [Except.ok.injEq] at this
            subst this
            exact ⟨(key, value) :: settings, rfl, rfl⟩
        | null | bool _ | number _ | sequence _ | mapping _ | tagged _ _ =>
            cases this
  · rintro ⟨settings, rfl, rfl⟩
    induction settings with
    | nil => exact .nil
    | cons setting rest induction => exact .cons rfl induction

@[simp]
theorem ownEntries_namedMapping (origin : String)
    (settings : List (String × Value)) :
    ownEntries origin (namedMapping settings) =
      .ok (fromSource origin settings) :=
  ownEntries_eq_ok_iff.mpr ⟨settings, rfl, rfl⟩

/-! ## Looking a key up -/

theorem entryOf?_eq_none_iff {entries : List Entry} {key : String} :
    entryOf? entries key = none ↔ key ∉ keysOf entries := by
  simp [entryOf?, keysOf]

theorem key_of_entryOf? {entries : List Entry} {key : String}
    {entry : Entry} (found : entryOf? entries key = some entry) :
    entry.key = key := by
  simpa using List.find?_some found

theorem mem_of_entryOf? {entries : List Entry} {key : String}
    {entry : Entry} (found : entryOf? entries key = some entry) :
    entry ∈ entries :=
  List.mem_of_find?_eq_some found

/-- Where keys are distinct, a setting is found under its key. -/
theorem entryOf?_of_mem {entries : List Entry} {entry : Entry}
    (distinct : (keysOf entries).Nodup) (member : entry ∈ entries) :
    entryOf? entries entry.key = some entry := by
  induction entries with
  | nil => cases member
  | cons first rest induction =>
      rw [keysOf_cons, List.nodup_cons] at distinct
      rw [entryOf?]
      rcases List.mem_cons.mp member with rfl | later
      · simp
      · have differs : first.key ≠ entry.key := by
          intro equal
          exact distinct.1 (mem_keysOf.mpr ⟨entry, later, equal.symm⟩)
        rw [List.find?_cons_of_neg (by simpa using differs)]
        exact induction distinct.2 later

theorem entryOf?_eq_some_iff {entries : List Entry} {key : String}
    {entry : Entry} (distinct : (keysOf entries).Nodup) :
    entryOf? entries key = some entry ↔
      entry ∈ entries ∧ entry.key = key := by
  constructor
  · intro found
    exact ⟨mem_of_entryOf? found, key_of_entryOf? found⟩
  · rintro ⟨member, rfl⟩
    exact entryOf?_of_mem distinct member

/-! ## Joining strictly -/

/-- A strict join succeeds exactly if no key comes twice. -/
theorem joinEntries_eq_ok_iff {entries included joined : List Entry} :
    joinEntries entries included = .ok joined ↔
      joined = entries ++ included ∧ (keysOf included).Nodup ∧
        (keysOf entries).Disjoint (keysOf included) := by
  induction included generalizing entries with
  | nil => simp [joinEntries, eq_comm]
  | cons entry rest induction =>
      rw [joinEntries]
      cases found : entryOf? entries entry.key with
      | some first =>
          have member : entry.key ∈ keysOf entries :=
            mem_keysOf.mpr
              ⟨first, mem_of_entryOf? found, key_of_entryOf? found⟩
          simp [List.disjoint_cons_right, member]
      | none =>
          have absent := entryOf?_eq_none_iff.mp found
          dsimp only
          rw [induction]
          simp only [List.append_assoc, List.singleton_append,
            keysOf_append, keysOf_cons, keysOf_nil, List.nodup_cons,
            List.disjoint_append_left, List.disjoint_cons_right,
            List.singleton_disjoint]
          tauto

/-! ## Laying settings over others -/

theorem entryOf?_cons (entry : Entry) (rest : List Entry)
    (key : String) :
    entryOf? (entry :: rest) key =
      if entry.key = key then some entry else entryOf? rest key := by
  simp only [entryOf?]
  by_cases same : entry.key = key
  · rw [List.find?_cons_of_pos (by simpa using same), if_pos same]
  · rw [List.find?_cons_of_neg (by simpa using same), if_neg same]

theorem entryOf?_append (former latter : List Entry) (key : String) :
    entryOf? (former ++ latter) key =
      (entryOf? former key).or (entryOf? latter key) :=
  List.find?_append

/-- The setting of the same key among some others, or else the setting. -/
def replacedBy (upper : List Entry) (entry : Entry) : Entry :=
  (entryOf? upper entry.key).getD entry

/-- The settings whose keys are not among those of some others. -/
def addedTo (lower upper : List Entry) : List Entry :=
  upper.filter fun entry => entry.key ∉ keysOf lower

theorem key_replacedBy (upper : List Entry) (entry : Entry) :
    (replacedBy upper entry).key = entry.key := by
  rw [replacedBy]
  cases found : entryOf? upper entry.key with
  | none => rfl
  | some held => exact key_of_entryOf? found

theorem keysOf_map_replacedBy (lower upper : List Entry) :
    keysOf (lower.map (replacedBy upper)) = keysOf lower := by
  rw [keysOf]
  rw [List.map_map]
  congr 1
  funext entry
  exact key_replacedBy upper entry

theorem replacedBy_cons (entry held : Entry) (rest : List Entry) :
    replacedBy (entry :: rest) held =
      if entry.key = held.key then entry else replacedBy rest held := by
  rw [replacedBy]
  rw [entryOf?_cons]
  split <;> rfl

theorem replacedBy_of_not_mem {upper : List Entry} {entry : Entry}
    (absent : entry.key ∉ keysOf upper) :
    replacedBy upper entry = entry := by
  rw [replacedBy]
  rw [entryOf?_eq_none_iff.mpr absent]
  rfl

@[simp]
theorem replacedBy_nil (entry : Entry) : replacedBy [] entry = entry :=
  rfl

theorem putEntry_of_mem {lower : List Entry} {entry : Entry}
    (member : entry.key ∈ keysOf lower) :
    putEntry lower entry = lower.map (replacedBy [entry]) := by
  have present : lower.any (·.key == entry.key) = true := by
    simpa [mem_keysOf] using member
  rw [putEntry]
  rw [if_pos present]
  congr 1
  funext held
  rw [replacedBy_cons]
  by_cases same : held.key = entry.key
  · simp [same]
  · rw [if_neg (by simpa using same), if_neg (Ne.symm same)]
    rfl

theorem putEntry_of_not_mem {lower : List Entry} {entry : Entry}
    (absent : entry.key ∉ keysOf lower) :
    putEntry lower entry = lower ++ [entry] := by
  have missing : ¬ lower.any (·.key == entry.key) = true := by
    simpa [mem_keysOf] using absent
  rw [putEntry]
  rw [if_neg missing]

/-- Replaced settings keep their places, and the others come last. -/
theorem replaceEntries_eq {lower upper : List Entry}
    (distinct : (keysOf upper).Nodup) :
    replaceEntries lower upper =
      lower.map (replacedBy upper) ++ addedTo lower upper := by
  induction upper generalizing lower with
  | nil =>
      have same : replacedBy [] = id := funext replacedBy_nil
      simp [replaceEntries, addedTo, same]
  | cons entry rest induction =>
      rw [keysOf_cons, List.nodup_cons] at distinct
      have unfolded : replaceEntries lower (entry :: rest) =
          replaceEntries (putEntry lower entry) rest := rfl
      rw [unfolded, induction distinct.2]
      -- A known key is replaced in its place; a new one is appended, and
      -- no later setting has the same key.
      by_cases member : entry.key ∈ keysOf lower
      · rw [putEntry_of_mem member, List.map_map]
        congr 1
        · apply List.map_congr_left
          intro held _
          rw [Function.comp_apply, replacedBy_cons, replacedBy_cons]
          split
          · exact replacedBy_of_not_mem distinct.1
          · rw [replacedBy_nil]
        · simp only [addedTo]
          rw [keysOf_map_replacedBy,
            List.filter_cons_of_neg (by simpa using member)]
      · rw [putEntry_of_not_mem member, List.map_append,
          List.append_assoc]
        congr 1
        · apply List.map_congr_left
          intro held contained
          rw [replacedBy_cons, if_neg]
          intro same
          exact member (mem_keysOf.mpr ⟨held, contained, same.symm⟩)
        · simp only [addedTo]
          rw [List.filter_cons_of_pos (by simpa using member),
            List.map_singleton, replacedBy_of_not_mem distinct.1,
            List.singleton_append]
          congr 1
          apply List.filter_congr
          intro held contained
          have differs : held.key ≠ entry.key := by
            intro same
            exact distinct.1 (mem_keysOf.mpr ⟨held, contained, same⟩)
          simp [differs]

theorem keysOf_replaceEntries {lower upper : List Entry}
    (distinct : (keysOf upper).Nodup) :
    keysOf (replaceEntries lower upper) =
      keysOf lower ++
        (keysOf upper).filter fun key => key ∉ keysOf lower := by
  rw [replaceEntries_eq distinct, keysOf_append, keysOf_map_replacedBy]
  congr 1
  rw [addedTo]
  generalize keysOf lower = keys
  simp only [keysOf]
  rw [List.filter_map]
  rfl

theorem entryOf?_map_replacedBy (lower upper : List Entry)
    (key : String) :
    entryOf? (lower.map (replacedBy upper)) key =
      (entryOf? lower key).map (replacedBy upper) := by
  rw [entryOf?]
  rw [List.find?_map]
  congr 2
  funext entry
  rw [Function.comp_apply, key_replacedBy]

theorem entryOf?_addedTo {lower : List Entry} (upper : List Entry)
    {key : String} (absent : key ∉ keysOf lower) :
    entryOf? (addedTo lower upper) key = entryOf? upper key := by
  unfold entryOf? addedTo
  rw [List.find?_filter]
  congr 1
  funext entry
  by_cases same : entry.key = key
  · simp [same, absent]
  · simp [same]

/-- The upper setting of a key wins. -/
theorem entryOf?_replaceEntries {lower upper : List Entry}
    (distinct : (keysOf upper).Nodup) (key : String) :
    entryOf? (replaceEntries lower upper) key =
      (entryOf? upper key).or (entryOf? lower key) := by
  rw [replaceEntries_eq distinct, entryOf?_append,
    entryOf?_map_replacedBy]
  cases found : entryOf? lower key with
  | none =>
      rw [entryOf?_addedTo upper (entryOf?_eq_none_iff.mp found)]
      simp
  | some held =>
      rw [Option.map_some, Option.some_or, replacedBy,
        key_of_entryOf? found]
      cases entryOf? upper key <;> rfl

theorem nodup_keysOf_replaceEntries {lower upper : List Entry}
    (distinct : (keysOf lower).Nodup) (upperDistinct : (keysOf upper).Nodup) :
    (keysOf (replaceEntries lower upper)).Nodup := by
  rw [keysOf_replaceEntries upperDistinct, List.nodup_append]
  refine ⟨distinct, upperDistinct.filter _, ?_⟩
  rintro key below _ added rfl
  simpa [below] using List.of_mem_filter added

theorem entryOf?_putEntry_of_ne {lower : List Entry} {entry : Entry}
    {key : String} (differs : entry.key ≠ key) :
    entryOf? (putEntry lower entry) key = entryOf? lower key := by
  have single : (keysOf [entry]).Nodup := List.pairwise_singleton _ _
  show entryOf? (replaceEntries lower [entry]) key = _
  rw [entryOf?_replaceEntries single, entryOf?_cons, if_neg differs]
  rfl

/-- What is put under one key is not reported for the others. -/
theorem replacementEvents_putEntry {lower rest : List Entry} {entry : Entry}
    (absent : entry.key ∉ keysOf rest) :
    replacementEvents (putEntry lower entry) rest =
      replacementEvents lower rest := by
  unfold replacementEvents
  apply List.filterMap_congr
  intro held member
  have differs : entry.key ≠ held.key := fun same =>
    absent (mem_keysOf.mpr ⟨held, member, same.symm⟩)
  rw [entryOf?_putEntry_of_ne differs]

/-- Where keys are distinct, the first setting of a key is the only one. -/
theorem putEntry_cons {first : Entry} {rest : List Entry}
    (distinct : first.key ∉ keysOf rest) (entry : Entry) :
    putEntry (first :: rest) entry =
      if first.key = entry.key then entry :: rest
      else first :: putEntry rest entry := by
  by_cases same : first.key = entry.key
  · have member : entry.key ∈ keysOf (first :: rest) := by simp [same]
    have kept : rest.map (replacedBy [entry]) = rest.map id := by
      apply List.map_congr_left
      intro held contained
      have differs : entry.key ≠ held.key := by
        rintro equal
        rw [same, equal] at distinct
        exact distinct (mem_keysOf.mpr ⟨held, contained, rfl⟩)
      rw [replacedBy_cons, if_neg differs]
      rfl
    rw [if_pos same, putEntry_of_mem member, List.map_cons, kept, List.map_id,
      replacedBy_cons, if_pos same.symm]
  · rw [if_neg same]
    have itself : replacedBy [entry] first = first := by
      rw [replacedBy_cons, if_neg (Ne.symm same), replacedBy_nil]
    by_cases member : entry.key ∈ keysOf rest
    · rw [putEntry_of_mem member,
        putEntry_of_mem (List.mem_cons_of_mem _ member), List.map_cons,
        itself]
    · have absent : entry.key ∉ keysOf (first :: rest) := by
        simp [Ne.symm same, member]
      rw [putEntry_of_not_mem member, putEntry_of_not_mem absent,
        List.cons_append]

/-! ## The two tables of a document -/

/-- Settings as a mapping. -/
def valuesOf (entries : List Entry) : Mapping :=
  entries.map fun entry => (.string entry.key, entry.value)

/-- The origins of settings. -/
def originsOf (entries : List Entry) : Origins :=
  entries.map fun entry => (entry.key, entry.origin)

@[simp]
theorem valuesOf_cons (entry : Entry) (rest : List Entry) :
    valuesOf (entry :: rest) =
      (.string entry.key, entry.value) :: valuesOf rest := rfl

@[simp]
theorem originsOf_cons (entry : Entry) (rest : List Entry) :
    originsOf (entry :: rest) =
      (entry.key, entry.origin) :: originsOf rest := rfl

theorem valuesOf_append (former latter : List Entry) :
    valuesOf (former ++ latter) = valuesOf former ++ valuesOf latter :=
  List.map_append

/-- The values of a source do not depend on what it is called. -/
theorem valuesOf_fromSource (origin : String)
    (settings : List (String × Value)) :
    valuesOf (fromSource origin settings) = namedMapping settings := by
  rw [valuesOf, fromSource, List.map_map, namedMapping]
  rfl

theorem get?_valuesOf (entries : List Entry) (key : String) :
    Mapping.get? (valuesOf entries) key =
      (entryOf? entries key).map (·.value) := by
  rw [Mapping.get?, Mapping.find?, valuesOf, List.find?_map, entryOf?,
    Option.map_map]
  rfl

theorem get?_originsOf (entries : List Entry) (key : String) :
    Origins.get? (originsOf entries) key =
      (entryOf? entries key).map (·.origin) := by
  induction entries with
  | nil => rfl
  | cons entry rest induction =>
      rw [Origins.get?, originsOf_cons, List.lookup_cons, entryOf?_cons]
      by_cases same : entry.key = key
      · simp [same]
      · have differs : (key == entry.key) = false := by
          simpa using Ne.symm same
        rw [differs, if_neg same]
        exact induction

theorem textKeys_valuesOf (entries : List Entry) :
    Mapping.textKeys (valuesOf entries) = keysOf entries := by
  induction entries with
  | nil => rfl
  | cons entry rest induction =>
      rw [valuesOf_cons, Mapping.textKeys, List.filterMap_cons]
      exact congrArg (List.cons entry.key) induction

theorem put_valuesOf {entries : List Entry}
    (distinct : (keysOf entries).Nodup) (entry : Entry) :
    Mapping.put (valuesOf entries) (.string entry.key) entry.value =
      valuesOf (putEntry entries entry) := by
  induction entries with
  | nil => rfl
  | cons first rest induction =>
      rw [keysOf_cons, List.nodup_cons] at distinct
      rw [putEntry_cons distinct.1, valuesOf_cons, Mapping.put,
        induction distinct.2]
      by_cases same : first.key = entry.key
      · simp [same, Value.sameKey]
      · simp [same, Value.sameKey]

theorem put_originsOf {entries : List Entry}
    (distinct : (keysOf entries).Nodup) (entry : Entry) :
    Origins.put (originsOf entries) entry.key entry.origin =
      originsOf (putEntry entries entry) := by
  induction entries with
  | nil => rfl
  | cons first rest induction =>
      rw [keysOf_cons, List.nodup_cons] at distinct
      rw [putEntry_cons distinct.1, originsOf_cons, Origins.put,
        induction distinct.2]
      by_cases same : first.key = entry.key
      · simp [same]
      · simp [same]

theorem erase_originsOf {entry : Entry} {rest : List Entry}
    (distinct : entry.key ∉ keysOf rest) :
    Origins.erase (originsOf (entry :: rest)) entry.key = originsOf rest := by
  rw [Origins.erase, originsOf_cons, List.filter_cons_of_neg (by simp),
    List.filter_eq_self]
  intro held member
  rcases List.mem_map.mp member with ⟨other, contained, rfl⟩
  have differs : other.key ≠ entry.key := fun same =>
    distinct (mem_keysOf.mpr ⟨other, contained, same⟩)
  simpa using differs

/-- The tables of merged settings, filled in step. -/
def Merged.ofEntries (entries : List Entry) : Merged :=
  ⟨valuesOf entries, originsOf entries⟩

/-- The tables of a document, filled in step. -/
def Document.ofEntries (entries : List Entry) : Document :=
  ⟨valuesOf entries, originsOf entries⟩

/-- The document of some settings, with variables filled in. -/
def finish (world : World) (entries : List Entry) : Except Error Document :=
  (Merged.ofEntries entries).finish world

namespace Document

variable (entries : List Entry) (key : String)

@[simp]
theorem values_ofEntries : (ofEntries entries).values = valuesOf entries :=
  rfl

@[simp]
theorem get?_ofEntries :
    (ofEntries entries).get? key = (entryOf? entries key).map (·.value) :=
  get?_valuesOf entries key

@[simp]
theorem origin?_ofEntries :
    (ofEntries entries).origin? key =
      (entryOf? entries key).map (·.origin) :=
  get?_originsOf entries key

@[simp]
theorem keys_ofEntries : (ofEntries entries).keys = keysOf entries :=
  textKeys_valuesOf entries

end Document

end Gatehouse.Config
