import Mathlib.Data.List.Destutter
import ProgramFacts.Proofs.Run

/-!
# Layers of an error

An error is a cause under layers, and its message names the units of its layers before the message
of the cause.  Wrapping adds at most one layer on top, and looks at no other layer than the
outermost: a unit that is named twice in a row gives one layer, and a unit that is named again after
another one gives a second layer.
-/

namespace ProgramFacts
namespace EncodeError

/-! ## Errors and their layers -/

theorem units_eq_nil {e : EncodeError} (h : ∀ unit source, e ≠ inUnit unit source) :
    e.units = [] := by
  cases e with
  | inUnit unit source => exact absurd rfl (h unit source)
  | _ => rfl

theorem rootCause_eq_self {e : EncodeError} (h : ∀ unit source, e ≠ inUnit unit source) :
    e.rootCause = e := by
  cases e with
  | inUnit unit source => exact absurd rfl (h unit source)
  | _ => rfl

/-- The message of an error is that of its cause after the units of its layers. -/
theorem message_eq_join (e : EncodeError) :
    e.message =
      String.join (e.units.map fun unit => "Failed to encode " ++ unit ++ ": ") ++
        e.rootCause.message := by
  induction e with
  | inUnit unit source ih =>
      calc
        (inUnit unit source).message = "Failed to encode " ++ unit ++ ": " ++ source.message := rfl
        _ = "Failed to encode " ++ unit ++ ": " ++
              (String.join (source.units.map fun unit => "Failed to encode " ++ unit ++ ": ") ++
                source.rootCause.message) := by rw [← ih]
        _ = _ := by
          rw [← String.append_assoc, units, rootCause, List.map_cons, String.join_cons]
  | _ => simp [units, rootCause]

/-! ## Wrapping -/

/-- The layers after one wrapping. -/
theorem units_within (unit : String) (e : EncodeError) :
    (e.within unit).units = if e.units.head? = some unit then e.units else unit :: e.units := by
  cases e with
  | inUnit outer source =>
      by_cases h : outer = unit
      · simp [within, units, h]
      · simp [within, units, h]
  | _ => rfl

/-- Wrapping never puts a layer on one that names the same unit. -/
theorem isChain_units_within
    {e : EncodeError} (h : e.units.IsChain (· ≠ ·)) (unit : String) :
    (e.within unit).units.IsChain (· ≠ ·) := by
  rw [units_within]
  split
  · exact h
  · next houter =>
      apply h.cons
      rintro outer hhead rfl
      exact houter hhead

theorem isChain_units_foldl_within
    {e : EncodeError} (h : e.units.IsChain (· ≠ ·)) (names : List String) :
    (names.foldl (fun e name => e.within name) e).units.IsChain (· ≠ ·) := by
  induction names generalizing e with
  | nil => exact h
  | cons name names ih => exact ih (isChain_units_within h name)

/-- The layers after several wrappings of an error whose outermost layer is given: below it nothing
changes, and from it on the names are collapsed. -/
theorem reverse_units_foldl_within
    {e : EncodeError} {outer : String} {inner : List String} (h : e.units = outer :: inner)
    (names : List String) :
    (names.foldl (fun e name => e.within name) e).units.reverse =
      inner.reverse ++ names.destutter' (· ≠ ·) outer := by
  induction names generalizing e outer inner with
  | nil => simp [h]
  | cons name names ih =>
      rw [List.foldl_cons]
      by_cases heq : outer = name
      · have hunits : (e.within name).units = outer :: inner := by simp [units_within, h, heq]
        rw [ih hunits, List.destutter'_cons_neg _ (not_not.mpr heq)]
      · have hunits : (e.within name).units = name :: outer :: inner := by
          simp [units_within, h, heq]
        rw [ih hunits, List.destutter'_cons_pos _ heq, List.reverse_cons, List.append_assoc,
          List.singleton_append]

/-- The layers of an error that had none before are the names in order, where equal names in a row
are collapsed to one. -/
theorem reverse_units_foldl_within_of_units_eq_nil
    {e : EncodeError} (h : e.units = []) (names : List String) :
    (names.foldl (fun e name => e.within name) e).units.reverse = names.destutter (· ≠ ·) := by
  cases names with
  | nil => simp [h]
  | cons name names =>
      have hunits : (e.within name).units = [name] := by simp [units_within, h]
      rw [List.foldl_cons, reverse_units_foldl_within hunits, List.destutter_cons']
      rfl

/-! ## Main result -/

/-- An error that is no layer itself, wrapped once for each name of a list: its layers, innermost
first, are the names with equal names in a row collapsed to one, so that no two neighbours are equal;
its cause is the error that was wrapped; and its message is that of the cause after one phrase for
each layer, from the outermost inwards. -/
theorem layers_of_wrapped
    {base : EncodeError} (hbase : ∀ unit source, base ≠ inUnit unit source)
    (names : List String) :
    let e := names.foldl (fun e name => e.within name) base
    e.units.reverse = names.destutter (· ≠ ·) ∧
      e.units.IsChain (· ≠ ·) ∧
      e.rootCause = base ∧
      e.message =
        String.join (e.units.map fun unit => "Failed to encode " ++ unit ++ ": ") ++
          base.message := by
  intro e
  have hnone : base.units = [] := units_eq_nil hbase
  have hroot : e.rootCause = base := by
    rw [rootCause_foldl_within, rootCause_eq_self hbase]
  refine ⟨reverse_units_foldl_within_of_units_eq_nil hnone names, ?_, hroot, ?_⟩
  · apply isChain_units_foldl_within
    rw [hnone]
    exact .nil
  · rw [message_eq_join e, hroot]

/-- A method that is named twice in a row and once more above its class has two layers. -/
theorem layers_of_wrapped_repeatedMethod :
    let base := invalidTypeKind "?T"
    let e := ["method m", "method m", "class A", "method m"].foldl
      (fun e name => e.within name) base
    (∀ unit source, base ≠ inUnit unit source) ∧
      e.units.reverse = ["method m", "class A", "method m"] ∧
      e.rootCause = base ∧
      e.message =
        "Failed to encode method m: Failed to encode class A: Failed to encode method m: " ++
          base.message := by
  intro base e
  have hbase : ∀ unit source, invalidTypeKind "?T" ≠ inUnit unit source := nofun
  obtain ⟨hunits, -, hroot, hmessage⟩ :=
    layers_of_wrapped hbase ["method m", "method m", "class A", "method m"]
  have hcollapsed :
      ["method m", "method m", "class A", "method m"].destutter (· ≠ ·) =
        ["method m", "class A", "method m"] := by decide
  exact ⟨hbase, hunits.trans hcollapsed, hroot, hmessage.trans (by rfl)⟩

end EncodeError
end ProgramFacts
