import Mathlib
import PrintFarm.Http.Page

/-!
# Escaped text

Five replacements, one after the other, take the characters that mean markup out of a text.

* Since ampersands are replaced first, no replacement finds anything in what an earlier one has
  put there (`toList_foldl_replaceAll`).  So each character is replaced once
  (`toList_escapeMarkup`).
* No mark is left but for ampersands, and each of these begins a reference
  (`not_mem_escapeMarkup`, `ampersands_escapeMarkup`).
* `unescape` puts the marks back in one pass, and gives the text that was escaped
  (`unescape_escapeMarkup`).
-/

namespace PrintFarm.Http

/-! ## One pass -/

/-- What a character becomes if each is replaced once. -/
def substitute : List (Char × String) → Char → List Char
  | [], c => [c]
  | r :: rest, c => if c = r.1 then r.2.toList else substitute rest c

theorem substitute_of_not_mem {rs : List (Char × String)} {c : Char}
    (h : ∀ r ∈ rs, c ≠ r.1) : substitute rs c = [c] := by
  induction rs with
  | nil => rfl
  | cons r rest ih =>
    obtain ⟨hne, hrest⟩ := List.forall_mem_cons.mp h
    rw [substitute, if_neg hne, ih hrest]

theorem flatMap_substitute_of_not_mem {rs : List (Char × String)} {cs : List Char}
    (h : ∀ r ∈ rs, r.1 ∉ cs) : cs.flatMap (substitute rs) = cs := by
  induction cs with
  | nil => rfl
  | cons c cs ih =>
    have hhead : substitute rs c = [c] :=
      substitute_of_not_mem fun r hr heq => h r hr (heq ▸ List.mem_cons_self)
    have htail := ih fun r hr hmem => h r hr (List.mem_cons_of_mem c hmem)
    rw [List.flatMap_cons, hhead, htail, List.singleton_append]

/-- If no reference has a mark in it that is replaced later, each character is replaced once. -/
theorem toList_foldl_replaceAll {rs : List (Char × String)}
    (hrs : rs.Pairwise fun earlier later => later.1 ∉ earlier.2.toList) (s : String) :
    (rs.foldl (fun text r => replaceAll r.1 r.2 text) s).toList =
      s.toList.flatMap (substitute rs) := by
  induction rs generalizing s with
  | nil => exact (List.flatMap_singleton' _).symm
  | cons r rest ih =>
    obtain ⟨hlater, hrest⟩ := List.pairwise_cons.mp hrs
    rw [List.foldl_cons, ih hrest, replaceAll, String.toList_ofList, List.flatMap_assoc]
    congr 1
    funext c
    by_cases hc : c = r.1
    · rw [if_pos hc, substitute, if_pos hc]
      exact flatMap_substitute_of_not_mem hlater
    · rw [if_neg hc, substitute, if_neg hc, List.flatMap_singleton]

theorem pairwise_references :
    references.Pairwise fun earlier later => later.1 ∉ earlier.2.toList := by
  decide

/-- Each character of a text is escaped on its own. -/
theorem toList_escapeMarkup (s : String) :
    (escapeMarkup s).toList = s.toList.flatMap (substitute references) :=
  toList_foldl_replaceAll pairwise_references s

/-- A mark becomes its reference, and any other character stays. -/
theorem substitute_cases (rs : List (Char × String)) (c : Char) :
    (∃ r ∈ rs, c = r.1 ∧ substitute rs c = r.2.toList) ∨
      (∀ r ∈ rs, c ≠ r.1) ∧ substitute rs c = [c] := by
  by_cases hmark : ∀ r ∈ rs, c ≠ r.1
  · exact Or.inr ⟨hmark, substitute_of_not_mem hmark⟩
  · left
    induction rs with
    | nil => exact absurd (List.forall_mem_nil _) hmark
    | cons r rest ih =>
      rw [substitute]
      by_cases hc : c = r.1
      · exact ⟨r, List.mem_cons_self, hc, if_pos hc⟩
      · obtain ⟨q, hq, hfound⟩ := ih fun hrest => hmark (List.forall_mem_cons.mpr ⟨hc, hrest⟩)
        rw [if_neg hc]
        exact ⟨q, List.mem_cons_of_mem r hq, hfound⟩

/-! ## What is left of the marks -/

/-- Each mark has a reference, and no mark but the ampersand occurs in one. -/
theorem references_of_mark {mark : Char} (hmark : mark ∈ ['<', '>', '"', '\'']) :
    (∃ r ∈ references, mark = r.1) ∧ ∀ r ∈ references, mark ∉ r.2.toList := by
  simp only [List.mem_cons, List.not_mem_nil, or_false] at hmark
  rcases hmark with rfl | rfl | rfl | rfl <;> decide

/-- No angle bracket and no quotation mark is left. -/
theorem not_mem_escapeMarkup (s : String) :
    ∀ mark ∈ ['<', '>', '"', '\''], mark ∉ (escapeMarkup s).toList := by
  intro mark hmark hmem
  obtain ⟨⟨r, hr, heq⟩, hclean⟩ := references_of_mark hmark
  rw [toList_escapeMarkup] at hmem
  obtain ⟨c, -, hc⟩ := List.mem_flatMap.mp hmem
  rcases substitute_cases references c with ⟨q, hq, -, hput⟩ | ⟨hother, hkept⟩
  · exact hclean q hq (hput ▸ hc)
  · rw [hkept, List.mem_singleton] at hc
    exact hother r hr (hc ▸ heq)

/-- An ampersand in what replaces a character is the first character of a reference. -/
theorem ampersand_of_substitute {c : Char} {before after : List Char}
    (h : substitute references c = before ++ '&' :: after) :
    before = [] ∧ ∃ r ∈ references, r.2.toList = '&' :: after := by
  rcases substitute_cases references c with ⟨r, hr, -, hput⟩ | ⟨hother, hkept⟩
  · have honce : ∀ r ∈ references, '&' ∉ r.2.toList.tail := by decide
    rw [hput] at h
    cases before with
    | nil => exact ⟨rfl, r, hr, h⟩
    | cons b before =>
      have htail := honce r hr
      rw [h, List.cons_append, List.tail_cons] at htail
      exact absurd (List.mem_append_right before List.mem_cons_self) htail
  · have hlisted : ('&', "&amp;") ∈ references := List.mem_cons_self
    have hmem : '&' ∈ substitute references c := h ▸ List.mem_append_right before List.mem_cons_self
    rw [hkept, List.mem_singleton] at hmem
    exact absurd hmem.symm (hother _ hlisted)

/-- Every ampersand that is left begins a reference. -/
theorem ampersands_escapeMarkup (s : String) (before after : List Char)
    (h : (escapeMarkup s).toList = before ++ '&' :: after) :
    ∃ r ∈ references, r.2.toList <+: '&' :: after := by
  rw [toList_escapeMarkup] at h
  -- the first character is replaced by a text that either has the ampersand in it or precedes it
  generalize s.toList = cs at h
  induction cs generalizing before with
  | nil => exact absurd h (by simp)
  | cons c cs ih =>
    rw [List.flatMap_cons] at h
    rcases List.append_eq_append_iff.mp h with ⟨more, rfl, hrest⟩ | ⟨within, hfirst, hrest⟩
    · exact ih more hrest
    · cases within with
      | nil => exact ih [] hrest.symm
      | cons d within =>
        obtain ⟨rfl, rfl⟩ := List.cons.inj hrest
        obtain ⟨-, r, hr, hbegin⟩ := ampersand_of_substitute hfirst
        exact ⟨r, hr, hbegin ▸ List.prefix_append ('&' :: within) _⟩

/-! ## Putting the marks back -/

/-- The text with marks in place of the references, read once from left to right. -/
def unescape (cs : List Char) : List Char :=
  match cs with
  | [] => []
  | c :: rest =>
    match references.find? fun r => r.2.toList.isPrefixOf (c :: rest) with
    | some r => r.1 :: unescape (rest.drop (r.2.length - 1))
    | none => c :: unescape rest
termination_by cs.length

/-- No reference begins another one. -/
theorem find?_references {r : Char × String} (hr : r ∈ references) (cs : List Char) :
    references.find? (fun q => q.2.toList.isPrefixOf (r.2.toList ++ cs)) = some r := by
  simp only [references, List.mem_cons, List.not_mem_nil, or_false] at hr
  rcases hr with rfl | rfl | rfl | rfl | rfl <;> rfl

theorem unescape_reference {r : Char × String} (hr : r ∈ references) (cs : List Char) :
    unescape (r.2.toList ++ cs) = r.1 :: unescape cs := by
  have hfound := find?_references hr cs
  obtain ⟨c, rest, htext⟩ : ∃ c rest, r.2.toList = c :: rest := by
    have hsome : ∀ r ∈ references, r.2.toList ≠ [] := by decide
    exact List.exists_cons_of_ne_nil (hsome r hr)
  have hlength : r.2.length - 1 = rest.length := by
    rw [← String.length_toList, htext, List.length_cons, Nat.add_sub_cancel]
  rw [htext, List.cons_append] at hfound ⊢
  rw [unescape, hfound]
  show r.1 :: unescape ((rest ++ cs).drop (r.2.length - 1)) = _
  rw [hlength, List.drop_left]

/-- A character that begins no reference stays. -/
theorem unescape_of_ne {c : Char} (hc : c ≠ '&') (cs : List Char) :
    unescape (c :: cs) = c :: unescape cs := by
  have hnone : references.find? (fun r => r.2.toList.isPrefixOf (c :: cs)) = none := by
    refine List.find?_eq_none.mpr fun r hr hprefix => ?_
    have hbegin : ∀ r ∈ references, r.2.toList.head? = some '&' := by decide
    obtain ⟨rest, htext⟩ := List.isPrefixOf_iff_prefix.mp hprefix
    have hhead := congrArg List.head? htext
    rw [List.head?_append, hbegin r hr, Option.some_or, List.head?_cons] at hhead
    exact hc (Option.some.inj hhead).symm
  rw [unescape, hnone]

/-- A text without ampersands stays. -/
theorem unescape_of_not_mem {cs : List Char} (h : '&' ∉ cs) : unescape cs = cs := by
  induction cs with
  | nil => rw [unescape]
  | cons c cs ih =>
    obtain ⟨hc, hcs⟩ := not_or.mp (mt List.mem_cons.mpr h)
    rw [unescape_of_ne fun heq => hc heq.symm, ih hcs]

theorem ofList_unescape {s : String} (h : '&' ∉ s.toList) :
    String.ofList (unescape s.toList) = s := by
  rw [unescape_of_not_mem h, String.ofList_toList]

/-- Putting the marks back gives the text that was escaped. -/
theorem unescape_escapeMarkup (s : String) : unescape (escapeMarkup s).toList = s.toList := by
  rw [toList_escapeMarkup]
  induction s.toList with
  | nil => rw [List.flatMap_nil, unescape]
  | cons c cs ih =>
    rw [List.flatMap_cons]
    rcases substitute_cases references c with ⟨r, hr, rfl, hput⟩ | ⟨hother, hkept⟩
    · rw [hput, unescape_reference hr, ih]
    · rw [hkept, List.singleton_append, unescape_of_ne (hother _ List.mem_cons_self), ih]

/-- A reference that stands in the text is escaped like other text. -/
example : escapeMarkup "&lt;b>" = "&amp;lt;b&gt;" := by decide

/-- What is said of a text that stands for `s` among markup. -/
structure StandsFor (text s : String) : Prop where
  unmarked : ∀ mark ∈ ['<', '>', '"', '\''], mark ∉ text.toList
  ampersands : ∀ before after, text.toList = before ++ '&' :: after →
    ∃ r ∈ references, r.2.toList <+: '&' :: after
  read : unescape text.toList = s.toList

theorem standsFor_escapeMarkup (s : String) : StandsFor (escapeMarkup s) s where
  unmarked := not_mem_escapeMarkup s
  ampersands := ampersands_escapeMarkup s
  read := unescape_escapeMarkup s

/-- Different texts stay different. -/
theorem escapeMarkup_injective : Function.Injective escapeMarkup := by
  intro s t h
  rw [← String.toList_inj, ← unescape_escapeMarkup s, ← unescape_escapeMarkup t, h]

end PrintFarm.Http
