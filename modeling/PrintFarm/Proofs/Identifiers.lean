import Mathlib
import PrintFarm.Uuid

/-!
# Identifiers in texts

An identifier is written in groups of digits, with nothing else but hyphens (`Uuid.mem_text`).
What is written reads back as the same identifier (`Uuid.ofGrouped?_text`), so that texts that
differ in nothing but an identifier are different (`Uuid.toString_inj`).
-/

namespace PrintFarm

namespace Text

theorem hexDigit?_digitChar {d : Nat} (h : d < 16) : hexDigit? d.digitChar = some d := by
  interval_cases d <;> rfl

/-- Digits are read from left to right, the earlier ones counting sixteen times the later. -/
theorem hexNumber?_concat (cs : List Char) (c : Char) :
    hexNumber? (cs ++ [c]) =
      (hexNumber? cs).bind fun n => (hexDigit? c).map fun d => n * 16 + d := by
  rw [hexNumber?, List.foldl_append]
  show ((hexNumber? cs).bind fun n => (hexDigit? c).bind fun d => some (n * 16 + d)) = _
  simp only [Option.map_eq_bind, Function.comp_def]

theorem hexNumber?_toDigits (n : Nat) : hexNumber? (Nat.toDigits 16 n) = some n := by
  induction n using Nat.strongRecOn with
  | _ n ih =>
    rw [Nat.toDigits_eq_if (by decide)]
    split
    · rename_i hsmall
      rw [← List.nil_append [_], hexNumber?_concat, hexDigit?_digitChar hsmall]
      simp [hexNumber?]
    · rename_i hlarge
      rw [hexNumber?_concat, ih (n / 16) (by omega), hexDigit?_digitChar (Nat.mod_lt n (by decide))]
      exact congrArg some (Nat.div_add_mod' n 16)

theorem isHexDigit_of_mem_toDigits {n : Nat} {c : Char} (h : c ∈ Nat.toDigits 16 n) :
    isHexDigit c = true := by
  induction n using Nat.strongRecOn with
  | _ n ih =>
    rw [Nat.toDigits_eq_if (by decide)] at h
    split at h
    · rename_i hsmall
      rw [List.mem_singleton.mp h, isHexDigit, hexDigit?_digitChar hsmall, Option.isSome_some]
    · rcases List.mem_append.mp h with h | h
      · exact ih (n / 16) (by omega) h
      · rw [List.mem_singleton.mp h, isHexDigit, hexDigit?_digitChar (Nat.mod_lt n (by decide)),
          Option.isSome_some]

/-- Zeros in front do not count. -/
theorem hexNumber?_zeros (k : Nat) (cs : List Char) :
    hexNumber? (List.replicate k '0' ++ cs) = hexNumber? cs := by
  induction k with
  | zero => rfl
  | succ k ih => exact ih

end Text

namespace Uuid

/-- A group is read up to its hyphen. -/
theorem ungrouped?_hyphen (group : List Char) (k : Nat) (rest : List Nat) (cs : List Char) :
    ungrouped? (group.length :: k :: rest) (group ++ '-' :: cs) =
      (ungrouped? (k :: rest) cs).map (group ++ ·) := by
  rw [ungrouped?, List.drop_left, List.take_left]
  · rfl
  · exact List.cons_ne_nil k rest

/-- Taking the hyphens out undoes putting them in. -/
theorem ungrouped?_grouped {sizes : List Nat} {cs : List Char} (hsizes : sizes ≠ [])
    (hlength : cs.length = sizes.sum) : ungrouped? sizes (grouped sizes cs) = some cs := by
  induction sizes generalizing cs with
  | nil => exact absurd rfl hsizes
  | cons n rest ih =>
    cases rest with
    | nil => exact if_pos (hlength.trans (by simp))
    | cons k rest =>
      rw [List.sum_cons] at hlength
      have htake : (cs.take n).length = n := by
        rw [List.length_take]
        omega
      have hdrop : (cs.drop n).length = (k :: rest).sum := by
        rw [List.length_drop]
        omega
      have hgroup := ungrouped?_hyphen (cs.take n) k rest (grouped (k :: rest) (cs.drop n))
      rw [htake] at hgroup
      rw [grouped, hgroup, ih (List.cons_ne_nil k rest) hdrop, Option.map_some,
        List.take_append_drop]
      exact List.cons_ne_nil k rest

theorem length_digits (u : Uuid) : u.digits.length = 32 := by
  have hfits : (Nat.toDigits 16 u.bits.toNat).length ≤ 32 :=
    (Nat.length_toDigits_le_iff (by decide) (by decide)).mpr (u.bits.isLt.trans_eq (by norm_num))
  rw [digits, List.length_append, List.length_replicate]
  omega

theorem ofDigits?_digits (u : Uuid) : ofDigits? u.digits = some u := by
  rw [ofDigits?, if_pos u.length_digits, digits, Text.hexNumber?_zeros, Text.hexNumber?_toDigits,
    Option.map_some, BitVec.ofNat_toNat, BitVec.setWidth_eq]

theorem mem_grouped {sizes : List Nat} {cs : List Char} {c : Char} (h : c ∈ grouped sizes cs) :
    c = '-' ∨ c ∈ cs := by
  induction sizes generalizing cs with
  | nil => exact Or.inr h
  | cons n rest ih =>
    cases rest with
    | nil => exact Or.inr h
    | cons k rest =>
      rw [grouped, List.mem_append, List.mem_cons] at h
      · rcases h with h | h | h
        · exact Or.inr (List.mem_of_mem_take h)
        · exact Or.inl h
        · exact (ih h).imp_right List.mem_of_mem_drop
      · exact List.cons_ne_nil k rest

/-- Nothing but digits and hyphens is written of an identifier. -/
theorem mem_text {u : Uuid} {c : Char} (h : c ∈ u.text.toList) :
    c = '-' ∨ Text.isHexDigit c = true := by
  rw [text, String.toList_ofList] at h
  refine (mem_grouped h).imp_right fun h => ?_
  rcases List.mem_append.mp h with h | h
  · rw [List.eq_of_mem_replicate h]
    rfl
  · exact Text.isHexDigit_of_mem_toDigits h

/-- What is written of an identifier reads back as it. -/
theorem ofGrouped?_text (u : Uuid) : ofGrouped? u.text.toList = some u := by
  rw [text, String.toList_ofList, ofGrouped?,
    ungrouped?_grouped (by decide) (u.length_digits.trans (by decide)), Option.bind_some,
    ofDigits?_digits]

/-- Texts with different identifiers in them are different. -/
theorem toString_inj {a b : Uuid} : toString a = toString b ↔ a = b := by
  refine ⟨fun h => ?_, congrArg toString⟩
  have hread := congrArg (fun s : String => ofGrouped? s.toList) h
  exact Option.some.inj ((ofGrouped?_text a).symm.trans (hread.trans (ofGrouped?_text b)))

end Uuid

end PrintFarm
