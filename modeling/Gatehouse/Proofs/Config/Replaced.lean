import Gatehouse.Proofs.Config.Override

/-!
# Trees that differ in replaced values only

An override replaces what other files hold under the keys that it sets.
Trees that differ only there have the same locations, so every path leads to
the same place in both.  A file is read in both to sources with the same
includes and the same keys, and the operations on settings take settings
that differ under those keys to settings that differ there at most.  Laying
the override over them leaves no difference.
-/

namespace Gatehouse.Config

open Gatehouse.Files
open Gatehouse.Outcome
open Gatehouse.Yaml

/-! ## Trees that differ in replaced values only -/

/-- The file at a path sets a key, whatever else is in that file. -/
def World.Sets (world : World) (path key : String) : Prop :=
  key ≠ includeKey ∧
    ∃ location text entries, world.tree.locate path = .ok location ∧
      world.tree.readAt location = .ok text ∧
      HoldsMapping text entries ∧ .string key ∈ entries.map Prod.fst

/-- Two entries have one key, and one value unless the key is among some. -/
def AgreeApart (keys : String → Prop) (first second : Value × Value) :
    Prop :=
  first.1 = second.1 ∧
    (first.2 = second.2 ∨ ∃ key, first.1 = .string key ∧ keys key)

/-- Two texts hold one mapping, apart from the values of some keys. -/
def TextsAgree (keys : String → Prop) (first second : String) : Prop :=
  ∃ entries others, HoldsMapping first entries ∧
    HoldsMapping second others ∧
    List.Forall₂ (AgreeApart keys) entries others

/--
Two contents are one, or are texts of another file than the override that
agree apart from what the override sets.
-/
inductive ContentsAgree (world : World) (path : String)
    (location : Location) : Content → Content → Prop where
  | same (content : Content) :
      ContentsAgree world path location content content
  | replaced {first second : String}
      (elsewhere : world.tree.locate path ≠ .ok location)
      (agree : TextsAgree (world.Sets path) first second) :
      ContentsAgree world path location (.text first) (.text second)

/--
Two worlds differ at most in the values that other files than the override
give to keys which the override sets.
-/
structure DifferInReplaced (path : String) (world other : World) :
    Prop where
  lookup : world.lookup = other.lookup
  current : world.tree.current = other.tree.current
  directories : world.tree.directories = other.tree.directories
  files : List.Forall₂
    (fun first second => first.1 = second.1 ∧
      ContentsAgree world path first.1 first.2 second.2)
    world.tree.files other.tree.files

namespace DifferInReplaced

variable {path : String} {world other : World}

/-! ## Paths lead to the same places -/

theorem locations (differ : DifferInReplaced path world other) :
    world.tree.files.map Prod.fst = other.tree.files.map Prod.fst := by
  have each := differ.files
  generalize world.tree.files = files at each
  generalize other.tree.files = others at each
  induction each with
  | nil => rfl
  | cons this _ induction =>
      rw [List.map_cons, List.map_cons, this.1, induction]

theorem content? (differ : DifferInReplaced path world other)
    (location : Location) :
    Option.Rel (ContentsAgree world path location)
      (world.tree.content? location) (other.tree.content? location) := by
  simp only [Tree.content?]
  have each := differ.files
  generalize world.tree.files = files at each
  generalize other.tree.files = others at each
  induction each with
  | nil => exact .none
  | @cons first second _ _ this _ induction =>
      rcases first with ⟨name, content⟩
      rcases second with ⟨otherName, otherContent⟩
      rcases this with ⟨rfl, agree⟩
      rw [List.lookup_cons, List.lookup_cons]
      by_cases same : location = name
      · subst same
        rw [BEq.rfl]
        exact .some agree
      · rw [beq_false_of_ne same]
        exact induction

theorem isDirectoryAt (differ : DifferInReplaced path world other)
    (location : Location) :
    world.tree.isDirectoryAt location =
      other.tree.isDirectoryAt location := by
  have within : ∀ tree : Tree,
      tree.files.any (fun file => location.isPrefixOf file.1.dropLast) =
        (tree.files.map Prod.fst).any
          fun file => location.isPrefixOf file.dropLast := by
    intro tree
    rw [List.any_map]
    rfl
  simp only [Tree.isDirectoryAt]
  rw [within, within, differ.locations, differ.directories,
    differ.current]

theorem step (differ : DifferInReplaced path world other) :
    world.tree.step = other.tree.step := by
  funext location piece
  have present : (world.tree.content? (location ++ [piece])).isSome =
      (other.tree.content? (location ++ [piece])).isSome := by
    have related := differ.content? (location ++ [piece])
    generalize world.tree.content? (location ++ [piece]) = content
      at related ⊢
    generalize other.tree.content? (location ++ [piece]) = otherContent
      at related ⊢
    cases related with
    | none => rfl
    | some agree => rfl
  simp only [Tree.step]
  simp only [differ.isDirectoryAt, present]

theorem start (differ : DifferInReplaced path world other) :
    world.tree.start = other.tree.start := by
  funext name
  rw [Tree.start, differ.current]
  rfl

theorem spellOut (differ : DifferInReplaced path world other) :
    world.tree.spellOut = other.tree.spellOut := by
  funext location pieces
  induction pieces generalizing location with
  | nil => rfl
  | cons piece rest induction =>
      rw [Tree.spellOut, Tree.spellOut, differ.step]
      simp only [induction]

theorem locate (differ : DifferInReplaced path world other) :
    world.tree.locate = other.tree.locate := by
  funext name
  simp only [Tree.locate]
  rw [differ.spellOut, differ.start]

theorem exists? (differ : DifferInReplaced path world other) :
    world.tree.exists? = other.tree.exists? := by
  funext name
  simp only [Tree.exists?, Tree.lookUp]
  rw [differ.step, differ.start]

theorem overrideIncludes (differ : DifferInReplaced path world other) :
    Config.overrideIncludes world.tree =
      Config.overrideIncludes other.tree := by
  funext listed base
  unfold Config.overrideIncludes sameFile
  rw [differ.locate]

theorem walkFuel (differ : DifferInReplaced path world other) :
    Config.walkFuel world = Config.walkFuel other := by
  have lengths := congrArg List.length differ.locations
  rw [List.length_map, List.length_map] at lengths
  simp only [Config.walkFuel]
  rw [lengths]

/-! ## Files are read alike -/

/-- Reading a file gives one text, or texts that agree where it matters. -/
theorem readAt (differ : DifferInReplaced path world other)
    (location : Location) :
    SameOutcome
      (fun first second => first = second ∨
        world.tree.locate path ≠ .ok location ∧
          TextsAgree (world.Sets path) first second)
      (world.tree.readAt location) (other.tree.readAt location) := by
  simp only [Tree.readAt]
  rw [differ.isDirectoryAt]
  have related := differ.content? location
  generalize world.tree.content? location = content at related ⊢
  generalize other.tree.content? location = otherContent at related ⊢
  cases related with
  | none =>
      dsimp only
      split
      · exact .refused _
      · exact .refused _
  | some agree =>
      cases agree with
      | same =>
          split
          · exact .given (.inl rfl)
          · exact .refused _
          · rename_i impossible
            cases impossible
      | replaced elsewhere agree => exact .given (.inr ⟨elsewhere, agree⟩)

end DifferInReplaced

/-- Two sources have the same includes, and agree apart from some keys. -/
structure SourcesAgree (keys : String → Prop) (first second : Source) :
    Prop where
  own : List.Forall₂ (AgreeApart keys) first.own second.own
  includes : first.includes = second.includes

section Sources

variable {keys : String → Prop}

theorem AgreeApart.refl (entry : Value × Value) :
    AgreeApart keys entry entry :=
  ⟨rfl, .inl rfl⟩

theorem SourcesAgree.refl (source : Source) :
    SourcesAgree keys source source :=
  ⟨List.forall₂_same.mpr fun entry _ => .refl entry, rfl⟩

theorem get?_eq_of_agree {entries others : Mapping} {name : String}
    (kept : ¬ keys name)
    (agree : List.Forall₂ (AgreeApart keys) entries others) :
    Mapping.get? entries name = Mapping.get? others name := by
  unfold Mapping.get? Mapping.find?
  induction agree with
  | nil => rfl
  | @cons first second _ _ this _ induction =>
      rcases this with ⟨named, valued⟩
      rw [List.find?_cons, List.find?_cons, ← named]
      split
      · rename_i same
        rcases valued with equal | ⟨key, text, among⟩
        · rw [Option.map_some, Option.map_some, equal]
        · rw [text] at same
          -- A replaced entry is never the one that is looked up.
          have held : key = name := by simpa [Value.sameKey] using same
          exact (kept (held ▸ among)).elim
      · exact induction

theorem drop_agree {entries others : Mapping} (name : String)
    (agree : List.Forall₂ (AgreeApart keys) entries others) :
    List.Forall₂ (AgreeApart keys) (Mapping.drop entries name)
      (Mapping.drop others name) := by
  simp only [Mapping.drop]
  induction agree with
  | nil => exact .nil
  | @cons first second _ _ this _ induction =>
      rw [List.filter_cons, List.filter_cons, ← this.1]
      split
      · exact .cons this induction
      · exact induction

/-- Texts that agree are parsed alike. -/
theorem parse_agree {origin directory first second : String}
    (kept : ¬ keys includeKey) (agree : TextsAgree keys first second) :
    SameOutcome (SourcesAgree keys)
      (Source.parse origin directory first)
      (Source.parse origin directory second) := by
  rcases agree with ⟨entries, others, held, otherHeld, each⟩
  simp only [Source.parse]
  rw [Source.mappingOf_eq_ok_iff.mpr held,
    Source.mappingOf_eq_ok_iff.mpr otherHeld]
  change SameOutcome _ (Except.mapError _ _ >>= _)
    (Except.mapError _ _ >>= _)
  rw [get?_eq_of_agree kept each]
  cases (Source.includePaths directory
    (Mapping.get? others includeKey)).mapError
      (Error.invalidInclude origin) with
  | error cause => exact .refused cause
  | ok includes => exact .given ⟨drop_agree includeKey each, rfl⟩

end Sources

namespace DifferInReplaced

variable {path : String} {world other : World}

theorem sourceAt (differ : DifferInReplaced path world other)
    (location : Location) (origin : String) :
    SameOutcome
      (fun first second => first = second ∨
        world.tree.locate path ≠ .ok location ∧
          SourcesAgree (world.Sets path) first second)
      (Config.sourceAt world location origin)
      (Config.sourceAt other location origin) := by
  simp only [Config.sourceAt]
  have same := differ.readAt location
  generalize world.tree.readAt location = read at same ⊢
  generalize other.tree.readAt location = otherRead at same ⊢
  cases same with
  | refused cause => exact .refused _
  | given agree =>
      rcases agree with rfl | ⟨elsewhere, agree⟩
      · exact .refl (fun _ => .inl rfl) _
      · have kept : ¬ world.Sets path includeKey :=
          fun sets => sets.1 rfl
        refine (parse_agree kept agree).imp ?_
        exact fun _ _ alike => .inr ⟨elsewhere, alike⟩

/-- The override itself is read as it is. -/
theorem sourceAt_override (differ : DifferInReplaced path world other)
    {location : Location}
    (located : world.tree.locate path = .ok location) (origin : String) :
    Config.sourceAt world location origin =
      Config.sourceAt other location origin := by
  have same := differ.sourceAt location origin
  generalize Config.sourceAt world location origin = source at same ⊢
  generalize Config.sourceAt other location origin = otherSource
    at same ⊢
  cases same with
  | refused cause => rfl
  | given agree =>
      rcases agree with rfl | ⟨elsewhere, _⟩
      · rfl
      · exact (elsewhere located).elim

/-- Every file is read alike, apart from what the override sets. -/
theorem sourceAt_agree (differ : DifferInReplaced path world other)
    (location : Location) (origin : String) :
    SameOutcome (SourcesAgree (world.Sets path))
      (Config.sourceAt world location origin)
      (Config.sourceAt other location origin) := by
  refine (differ.sourceAt location origin).imp ?_
  rintro first second (rfl | ⟨_, agree⟩)
  · exact .refl first
  · exact agree

end DifferInReplaced

/-! ## Settings that agree apart from some keys -/

/-- Two settings differ at most in the value of a key among some. -/
structure Alike (keys : String → Prop) (first second : Entry) : Prop where
  key : first.key = second.key
  origin : first.origin = second.origin
  value : first.value = second.value ∨ keys first.key

section Settings

variable {keys : String → Prop} {entries others : List Entry}

theorem keysOf_alike
    (agree : List.Forall₂ (Alike keys) entries others) :
    keysOf entries = keysOf others := by
  induction agree with
  | nil => rfl
  | cons this _ induction =>
      rw [keysOf_cons, keysOf_cons, this.key, induction]

theorem entryOf?_alike (agree : List.Forall₂ (Alike keys) entries others)
    (key : String) :
    Option.Rel (Alike keys) (entryOf? entries key)
      (entryOf? others key) := by
  induction agree with
  | nil => exact .none
  | cons this _ induction =>
      rw [entryOf?_cons, entryOf?_cons, this.key]
      split
      · exact .some this
      · exact induction

/-- Mappings that agree are named alike. -/
theorem ownEntries_alike (origin : String) {own otherOwn : Mapping}
    (agree : List.Forall₂ (AgreeApart keys) own otherOwn) :
    SameOutcome (List.Forall₂ (Alike keys)) (ownEntries origin own)
      (ownEntries origin otherOwn) := by
  rw [ownEntries]
  refine SameOutcome.mapM agree ?_
  rintro ⟨name, value⟩ ⟨otherName, otherValue⟩ ⟨named, valued⟩
  dsimp only at named valued ⊢
  subst named
  cases name with
  | string key =>
      refine .given ⟨rfl, rfl, valued.imp_right ?_⟩
      rintro ⟨other, same, among⟩
      cases same
      exact among
  | null | bool _ | number _ | sequence _ | mapping _ | tagged _ _ =>
      exact .refused _

/-- Settings that agree are joined alike, or conflict alike. -/
theorem joinEntries_alike {included otherIncluded : List Entry}
    (agree : List.Forall₂ (Alike keys) entries others)
    (includedAgree :
      List.Forall₂ (Alike keys) included otherIncluded) :
    SameOutcome (List.Forall₂ (Alike keys)) (joinEntries entries included)
      (joinEntries others otherIncluded) := by
  induction includedAgree generalizing entries others with
  | nil => exact .given agree
  | @cons first second _ _ this _ induction =>
      simp only [joinEntries]
      have related := entryOf?_alike agree first.key
      rw [← this.key, ← this.origin]
      generalize entryOf? entries first.key = found at related ⊢
      generalize entryOf? others first.key = otherFound at related ⊢
      cases related with
      | none => exact induction (List.rel_append agree (.cons this .nil))
      | some held =>
          dsimp only
          rw [held.origin]
          exact .refused _

theorem replacedBy_alike {upper : List Entry} {first second : Entry}
    (covered : ∀ key, keys key → key ∈ keysOf upper)
    (alike : Alike keys first second) :
    replacedBy upper first = replacedBy upper second := by
  rcases first with ⟨key, value, origin⟩
  rcases second with ⟨otherKey, otherValue, otherOrigin⟩
  rcases alike with ⟨rfl, rfl, equal | among⟩
  · dsimp only at equal
    rw [equal]
  · rcases mem_keysOf.mp (covered _ among) with ⟨entry, member, same⟩
    simp only [replacedBy]
    cases found : entryOf? upper key with
    | some held => rfl
    | none =>
        exact (entryOf?_eq_none_iff.mp found (covered _ among)).elim

/-- Laying settings that have all those keys over removes the difference. -/
theorem replaceEntries_alike {upper : List Entry}
    (distinct : (keysOf upper).Nodup)
    (covered : ∀ key, keys key → key ∈ keysOf upper)
    (agree : List.Forall₂ (Alike keys) entries others) :
    replaceEntries entries upper = replaceEntries others upper := by
  rw [replaceEntries_eq distinct, replaceEntries_eq distinct]
  rw [addedTo]
  rw [keysOf_alike agree]
  congr 1
  induction agree with
  | nil => rfl
  | @cons first second _ _ this _ induction =>
      rw [List.map_cons, List.map_cons, induction,
        replacedBy_alike covered this]

theorem replacementEvents_alike (upper : List Entry)
    (agree : List.Forall₂ (Alike keys) entries others) :
    replacementEvents entries upper = replacementEvents others upper := by
  rw [replacementEvents]
  congr 1
  funext entry
  have related := entryOf?_alike agree entry.key
  generalize entryOf? entries entry.key = found at related ⊢
  generalize entryOf? others entry.key = otherFound at related ⊢
  cases related with
  | none => rfl
  | some held => rw [Option.map_some, Option.map_some, held.origin]

end Settings

/-! ## The settings of the override itself -/

section Own

variable {world : World} {path : String}

/-- The settings of an override that is read have all the keys it sets. -/
theorem mem_keysOf_own {location : Location} {source : Source}
    {own : List Entry}
    (located : world.tree.locate path = .ok location)
    (read : sourceAt world location path = .ok source)
    (named : ownEntries path source.own = .ok own) {key : String}
    (sets : world.Sets path key) : key ∈ keysOf own := by
  rcases sets with
    ⟨kept, place, text, entries, found, textRead, held, member⟩
  cases located.symm.trans found
  rcases sourceAt_eq_ok_iff.mp read with ⟨otherText, otherRead, parsed⟩
  cases textRead.symm.trans otherRead
  rcases Source.parse_eq_ok_iff.mp parsed with
    ⟨others, names, otherHeld, _, _, rfl⟩
  obtain rfl := held.unique otherHeld
  rcases ownEntries_eq_ok_iff.mp named with ⟨settings, sourceOwn, rfl⟩
  rcases List.mem_map.mp member with ⟨⟨_, value⟩, inner, rfl⟩
  have stays : (Value.string key, value) ∈
      Mapping.drop entries includeKey :=
    List.mem_filter.mpr ⟨inner, by simpa [Value.sameKey] using kept⟩
  dsimp only at sourceOwn
  rw [sourceOwn] at stays
  rcases List.mem_map.mp stays with ⟨setting, contained, equal⟩
  rw [keysOf_fromSource]
  refine List.mem_map.mpr ⟨setting, contained, ?_⟩
  exact Value.string.inj (congrArg Prod.fst equal)

end Own

end Gatehouse.Config
