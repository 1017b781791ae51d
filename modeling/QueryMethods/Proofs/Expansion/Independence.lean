/-
A method is expanded in a block as it is expanded alone.

The items of a block share one emitter, and they share the lists of problems and of errors.
Still, a block can be cut anywhere: what the parts become, put together, is what the whole
becomes, its problems are those of the parts, and it is refused exactly if a part is.  Cut
between any two items this says that an item never depends on those around it.
-/
import Mathlib.Data.List.Forall2
import QueryMethods.Proofs.Expansion.InTurn

namespace QueryMethods

open Syntax (ImplHeader ImplItem)

namespace Surroundings

variable {s : Surroundings}

/-- Every item of a row that is expanded has its own expansion there. -/
theorem forall₂_of_expandItems {items : List ImplItem} {es : List ItemExpansion}
    (h : s.expandItems items = .ok es) :
    List.Forall₂ (fun item e => s.expandItem item = .ok e) items es := by
  have heq : List.Forall₂ Eq (items.map s.expandItem) (es.map .ok) := by
    rw [expandItems_eq_ok.mp h]
    exact List.forall₂_refl _
  rw [List.forall₂_map_left_iff, List.forall₂_map_right_iff] at heq
  exact heq

theorem problemsOf_expandItems_append (s : Surroundings) (xs ys : List ImplItem) :
    problemsOf (s.expandItems (xs ++ ys)) =
      problemsOf (s.expandItems xs) ++ problemsOf (s.expandItems ys) := by
  rw [expandItems, expandItems, expandItems, problemsOf_gather, problemsOf_gather,
    problemsOf_gather, List.map_append, List.flatMap_append]

end Surroundings

namespace RepositorySettings

variable {settings : RepositorySettings} {s : Surroundings}

/-- What accepted settings make of a block. -/
theorem expand_eq_map (hs : settings.surroundings = .ok s) (header : ImplHeader)
    (items : List ImplItem) :
    settings.expand ⟨header, items⟩ =
      (s.expandItems items).map (.ofItems s.context.strict header) := by
  rw [expand, hs]
  exact s.expandBlock_eq_map ⟨header, items⟩

/-- **Under accepted settings a block can be cut anywhere.**  The whole is expanded exactly if
both parts are, and then its items and its errors are theirs, one behind the other; its
problems are theirs as well.  So each item of a block becomes what it becomes in a block of
its own, whatever stands around it and in whichever order. -/
theorem expand_append (hs : settings.surroundings = .ok s) (header : ImplHeader)
    (xs ys : List ImplItem) :
    (∀ e, settings.expand ⟨header, xs ++ ys⟩ = .ok e ↔
      ∃ e₁ e₂, settings.expand ⟨header, xs⟩ = .ok e₁ ∧ settings.expand ⟨header, ys⟩ = .ok e₂ ∧
        e = ⟨⟨header, e₁.block.items ++ e₂.block.items⟩, e₁.errors ++ e₂.errors⟩) ∧
    problemsOf (settings.expand ⟨header, xs ++ ys⟩) =
      problemsOf (settings.expand ⟨header, xs⟩) ++ problemsOf (settings.expand ⟨header, ys⟩) ∧
    (∀ e, settings.expand ⟨header, xs⟩ = .ok e →
      List.Forall₂ (fun item item' => ∃ errors,
        settings.expand ⟨header, [item]⟩ = .ok ⟨⟨header, [item']⟩, errors⟩) xs e.block.items) := by
  simp only [expand_eq_map hs]
  refine ⟨?_, ?_, ?_⟩
  · intro e
    constructor
    · intro h
      obtain ⟨es, hes, rfl⟩ := map_eq_ok.mp h
      obtain ⟨es₁, es₂, h₁, h₂, rfl⟩ := (Surroundings.expandItems_append xs ys es).mp hes
      exact ⟨_, _, map_eq_ok.mpr ⟨es₁, h₁, rfl⟩, map_eq_ok.mpr ⟨es₂, h₂, rfl⟩,
        Expansion.ofItems_append ..⟩
    · rintro ⟨e₁, e₂, h₁, h₂, rfl⟩
      obtain ⟨es₁, hes₁, rfl⟩ := map_eq_ok.mp h₁
      obtain ⟨es₂, hes₂, rfl⟩ := map_eq_ok.mp h₂
      refine map_eq_ok.mpr ⟨es₁ ++ es₂, ?_, Expansion.ofItems_append ..⟩
      exact (Surroundings.expandItems_append xs ys _).mpr ⟨es₁, es₂, hes₁, hes₂, rfl⟩
  · rw [problemsOf_map, problemsOf_map, problemsOf_map, Surroundings.problemsOf_expandItems_append]
  · intro e h
    obtain ⟨es, hes, rfl⟩ := map_eq_ok.mp h
    show List.Forall₂ _ xs (es.map (·.result s.context.strict))
    rw [List.forall₂_map_right_iff]
    refine (Surroundings.forall₂_of_expandItems hes).imp ?_
    intro item e hitem
    refine ⟨e.errors s.context.strict ++ [], map_eq_ok.mpr ⟨[e], ?_, rfl⟩⟩
    rw [Surroundings.expandItems_eq_ok, List.map_singleton, hitem]
    rfl

/-- A method that is refused before the emitter is switched to it, in front of one that is
generated; and two methods whose settings mean nothing, one behind the other. -/
theorem expand_append_refused_and_found :
    let settings : RepositorySettings :=
      { defaults with
        table := some "users", fields := [⟨false, ["id"]⟩, ⟨false, ["name"]⟩] }
    let s : Surroundings :=
      { executor := "executor", fields := [("id", "id"), ("name", "name")]
        context := ⟨some ⟨"users", ["id", "name"], some "id",
          [("name", "name"), ("id", "id")]⟩, .snake, false, false⟩ }
    let header : ImplHeader := ⟨[], [], ⟨[], []⟩, none, [.word "Users"]⟩
    let findAll (marks : List Syntax.Token) : Syntax.Method :=
      { attributes := [], marks := [], body := []
        header :=
          { marks, name := "find_all", generics := ⟨[], []⟩
            inputs := [(.receiver [] [.word "self"], false)]
            result := some (.path (.mk [] "Result" (.angled []
              [.type (.path (.mk [] "Vec" (.angled [] [.type (.path (.ofName "User")) false]))) true,
                .type (.path (.ofName "SqlError")) false]))) } }
    let query : Syntax.Attribute := ⟨false, ⟨⟨false, ["native_query"]⟩, .nothing⟩⟩
    let refused := ImplItem.method (findAll [])
    let found := ImplItem.method (findAll [.word "async"])
    let asked := ImplItem.method { findAll [] with attributes := [query, query] }
    settings.surroundings = .ok s ∧
      (∃ e e₁ e₂, settings.expand ⟨header, [refused] ++ [found]⟩ = .ok e ∧
        settings.expand ⟨header, [refused]⟩ = .ok e₁ ∧ settings.expand ⟨header, [found]⟩ = .ok e₂ ∧
        e.block.items = e₁.block.items ++ e₂.block.items) ∧
      problemsOf (settings.expand ⟨header, [asked] ++ [asked]⟩) =
        [.here .secondQuery] ++ [.here .secondQuery] := by
  intro settings s header findAll query refused found asked
  have hs : settings.surroundings = .ok s := rfl
  have hsome : (settings.expand ⟨header, [refused] ++ [found]⟩).toOption.isSome = true := by
    decide +kernel
  obtain ⟨e, he⟩ := exists_of_isSome_toOption hsome
  obtain ⟨hcut, -, -⟩ := expand_append hs header [refused] [found]
  obtain ⟨-, hproblems, -⟩ := expand_append hs header [asked] [asked]
  obtain ⟨e₁, e₂, h₁, h₂, rfl⟩ := (hcut e).mp he
  exact ⟨hs, ⟨_, e₁, e₂, he, h₁, h₂, rfl⟩, hproblems⟩

end RepositorySettings

end QueryMethods
