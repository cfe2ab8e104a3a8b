import Gatehouse.Extension.Load
import Gatehouse.Proofs.Serve.Running

/-!
# What loading the declared extensions gives

The extensions that are loaded are those declared, in the same order, and
each of them was constructed by the registration of its id.
-/

namespace Gatehouse.Extension

open Gatehouse.Config (Document)
open Gatehouse.Outcome
open Gatehouse.Serve

/-- An extension is what the registration of a declared id constructs. -/
structure Builds (registry : Registry) (declaration : Declaration)
    (built : Instance) : Prop where
  id : built.id = declaration.id
  constructed : ∃ registration before after,
    registry.find? declaration.id = some registration ∧
    runAction (registration.construct built.config) before =
      (.ok built.extension, after)

section Building

variable {registry : Registry} {document : Document} {before after : State}

theorem builds_of_build {declaration : Declaration} {built : Instance}
    (run : runAction (build registry document declaration) before =
      (.ok built, after)) : Builds registry declaration built := by
  rw [build] at run
  split at run
  · rename_i registration found
    rcases runAction_bind_eq_ok_iff.mp run with ⟨config, _, _, run⟩
    rcases runAction_bind_eq_ok_iff.mp run with
      ⟨extension, _, construct, run⟩
    rw [runAction_bind_of_ok (runAction_report _)] at run
    cases run
    rw [runAction_mapFailure_eq_ok_iff] at construct
    exact ⟨rfl, registration, _, _, found, construct⟩
  · cases run

theorem builds_of_buildAll {seen : List String}
    {declared : List Declaration} {built : List Instance}
    (run : runAction (buildAll registry document seen declared) before =
      (.ok built, after)) :
    List.Forall₂ (Builds registry) declared built := by
  induction declared generalizing seen built before after with
  | nil =>
      cases run
      exact .nil
  | cons declaration rest induction =>
      rw [buildAll] at run
      split at run
      · cases run
      · rcases runAction_bind_eq_ok_iff.mp run with
          ⟨first, between, own, run⟩
        rcases runAction_bind_eq_ok_iff.mp run with
          ⟨others, _, tail, run⟩
        cases run
        exact .cons (builds_of_build own) (induction tail)

theorem builds_of_load {built : List Instance}
    (run : runAction (load registry document) before =
      (.ok built, after)) :
    ∃ declared,
      Declaration.readAll (document.get? Declaration.key) =
        .ok declared ∧
      List.Forall₂ (Builds registry) declared built := by
  rw [load, runAction_bind_eq_ok_iff] at run
  rcases run with ⟨declared, between, read, run⟩
  rcases runAction_bind_eq_ok_iff.mp run with ⟨found, _, all, run⟩
  rw [runAction_bind_of_ok (runAction_report _)] at run
  cases run
  rw [declarations] at read
  have given : (Declaration.readAll
      (document.get? Declaration.key)).mapError LoadError.invalidList =
        .ok declared := by
    split at read
    · rw [runAction_bind_of_ok (runAction_report _)] at read
      exact congrArg Prod.fst read
    · exact congrArg Prod.fst read
  exact ⟨declared, mapError_eq_ok_iff.mp given, builds_of_buildAll all⟩

theorem ids_of_builds {declared : List Declaration}
    {built : List Instance}
    (builds : List.Forall₂ (Builds registry) declared built) :
    built.map Instance.id = declared.map Declaration.id := by
  induction builds with
  | nil => rfl
  | cons first _ induction =>
      rw [List.map_cons, List.map_cons, first.id, induction]

end Building

end Gatehouse.Extension
