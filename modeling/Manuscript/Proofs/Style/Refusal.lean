import Manuscript.Proofs.Style.Merge

/-!
# Refusing overrides

Which overrides are taken, and how the others are refused. An override is well formed if its
keys are known wherever there are any and its sections are mappings (`IsWellFormed`); one that
is not should be refused in words (`IsChecked`). The check goes wrong where a value is used
before it is looked at: headings that are something else than a mapping, keys that cannot be
read as a number, and the keys of a spacing, which are only looked at when the spacing is made
(`Strays`). And it is left out for headings that are as good as nothing (`Ignores`).

Each part of an override has two lemmas: when it is taken, and when it fails without words. In
all other cases it is refused in words.

* `ofValue_succeeds_iff`, `ofValue_stumbles_iff`: the two for a whole override;
* `isChecked_iff`: the overrides that are checked are those that neither stray nor are ignored.
-/

namespace Manuscript.Style

open Manuscript.Document Manuscript.Success

/-! ## Results -/

/-- A step gives a value. -/
def Succeeds {α : Type} (r : Except Fault α) : Prop := ∃ a, r = .ok a

section Results

variable {α β : Type} {x : Except Fault α} {f : α → Except Fault β}

variable {o : Option β} {preset : α} {g : β → Except Fault α}

end Results

/-! ## Keys -/

/-- All keys of some entries are among the allowed ones. -/
def HasKnownKeys (allowed : List String) (entries : Value.Entries) : Prop :=
  ∀ e ∈ entries, ∃ key ∈ allowed, e.1 = .text key

theorem sameKey_text_iff {k : Value} {key : String} :
    Value.sameKey k (.text key) = true ↔ k = .text key := by
  cases k <;> simp [Value.sameKey, Value.asInt?]

theorem any_sameKey_iff {allowed : List String} {k : Value} :
    (allowed.any fun a => Value.sameKey k (.text a)) = true ↔ ∃ key ∈ allowed, k = .text key := by
  simp only [List.any_eq_true, sameKey_text_iff]

/-- Unknown keys are told, unless one of them is too long to be shown. -/
theorem unknownAmong_eq_nil_iff {allowed : List String} {entries : Value.Entries} :
    unknownAmong allowed entries = .ok [] ↔ HasKnownKeys allowed entries := by
  have hknown : HasKnownKeys allowed entries ↔
      ((entries.map (·.1)).filter fun k => !allowed.any fun a => Value.sameKey k (.text a))
        = [] := by
    rw [List.filter_eq_nil_iff, List.forall_mem_map]
    refine forall₂_congr fun e _ => ?_
    rw [← any_sameKey_iff]
    simp
  rw [hknown]
  unfold unknownAmong
  dsimp only
  constructor
  · intro h
    split at h
    -- The names are sorted and written out, and there are none if none are left.
    · have hlength := congrArg List.length (Except.ok.inj h)
      rw [List.length_mergeSort, List.length_map, List.length_nil] at hlength
      exact List.length_eq_zero_iff.1 hlength
    · cases h
  · intro h
    rw [h, List.map_nil, List.mergeSort_nil]
    exact if_pos rfl

variable {place : String} {entries : Value.Entries} {spacing : Spacing}

section Section

variable {α : Type} {allowed : List String} {v : Value} {make : Value.Entries → Spacing → α}

end Section

variable {v : Value} {headings : Headings}

theorem ofValue_of_not_map {data : Value} (h : ∀ entries, data ≠ .map entries) :
    ofValue data = .error .notMapping := by
  cases data with
  | map entries => exact absurd rfl (h entries)
  | _ => rfl

/-- No entries override nothing. -/
theorem ofValue_nil : ofValue (.map []) = .ok Config.standard := by
  have hknown : unknownAmong configKeys [] = .ok [] :=
    unknownAmong_eq_nil_iff.2 fun _ h => absurd h List.not_mem_nil
  rw [ofValue, ofEntries_eq, hknown]
  rfl

end Manuscript.Style
