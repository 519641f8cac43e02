import Mathlib
import PrintFarm.Api.Requests

/-!
# What can be read

A decoder that reads a document has checked it, so something is known of all that it reads.
`Json.Decoder.Yields` says so of a decoder and `Json.Fields.Yields` of the fields of a record, with
one lemma for each way of putting them together.  `Api.yields_runRequest` is about the requests that
create runs: the quantities of their items are counts of 32 bits.
-/

namespace PrintFarm.Json

variable {α β : Type} {p : α → Prop} {q : β → Prop}

/-- All that the decoder reads has the property. -/
def Decoder.Yields (decode : Decoder α) (p : α → Prop) : Prop :=
  ∀ d a, decode d = .ok a → p a

/-- All that the fields are read as has the property. -/
def Fields.Yields (fields : Fields α) (p : α → Prop) : Prop :=
  ∀ source before a, fields.read source before = .ok a → p a

/-! ## Reading without a fault -/

section Except

variable {ε ε' : Type} {x : Except ε α} {b : β}

@[simp] theorem bind_eq_ok {f : α → Except ε β} :
    x >>= f = .ok b ↔ ∃ a, x = .ok a ∧ f a = .ok b := by
  cases x with
  | error fault => exact ⟨nofun, nofun⟩
  | ok a => exact ⟨fun h => ⟨a, rfl, h⟩, fun ⟨_, ha, h⟩ => Except.ok.inj ha ▸ h⟩

@[simp] theorem map_eq_ok {f : α → β} : x.map f = .ok b ↔ ∃ a, x = .ok a ∧ f a = b := by
  cases x with
  | error fault => exact ⟨nofun, nofun⟩
  | ok a => simp [Except.map]

@[simp] theorem mapError_eq_ok {f : ε → ε'} {a : α} : x.mapError f = .ok a ↔ x = .ok a := by
  cases x with
  | error fault => exact ⟨nofun, nofun⟩
  | ok a => simp [Except.mapError]

end Except

/-! ## Values -/

namespace Decoder

theorem yields_true (decode : Decoder α) : decode.Yields fun _ => True :=
  fun _ _ _ => trivial

theorem yields_whole (low high : Int) :
    (whole low high).Yields fun i => low ≤ i ∧ i ≤ high := by
  intro d i h
  unfold whole at h
  split at h
  · split at h
    · exact nomatch h
    · split at h
      · split at h
        · rename_i hrange
          obtain rfl := Except.ok.inj h
          exact hrange
        · exact nomatch h
      · exact nomatch h
  · exact nomatch h

theorem Yields.mapM {decode : Decoder α} (hp : decode.Yields p) :
    ∀ {items : List Document} {values : List α}, items.mapM decode = .ok values →
      ∀ a ∈ values, p a
  | [], values, h => by
    obtain rfl := Except.ok.inj h
    exact fun _ ha => absurd ha List.not_mem_nil
  | d :: items, values, h => by
    rw [List.mapM_cons] at h
    obtain ⟨a, hfirst, h⟩ := bind_eq_ok.mp h
    obtain ⟨rest, hrest, h⟩ := bind_eq_ok.mp h
    obtain rfl := Except.ok.inj h
    exact List.forall_mem_cons.mpr ⟨hp d a hfirst, hp.mapM hrest⟩

theorem Yields.list {decode : Decoder α} (hp : decode.Yields p) :
    (list decode).Yields fun values => ∀ a ∈ values, p a := by
  intro d values h
  unfold Decoder.list at h
  split at h
  · rename_i items ending
    obtain ⟨read, hread, h⟩ := bind_eq_ok.mp h
    cases ending with
    | some fault => exact nomatch h
    | none =>
      obtain rfl := Except.ok.inj h
      exact hp.mapM hread
  · exact nomatch h

end Decoder

/-! ## Records -/

namespace Fields

theorem yields_true (fields : Fields α) : fields.Yields fun _ => True :=
  fun _ _ _ _ => trivial

theorem Yields.map {x : Fields α} {f : α → β} (hx : x.Yields p) (hf : ∀ a, p a → q (f a)) :
    (f <$> x).Yields q := by
  intro source before b h
  obtain ⟨a, hread, rfl⟩ := map_eq_ok.mp h
  exact hf a (hx source before a hread)

/-- The last of several fields is known where they are put together. -/
theorem Yields.seq {f : Fields (α → β)} {x : Fields α} (hx : x.Yields p)
    (hf : f.Yields fun g => ∀ a, p a → q (g a)) : (f <*> x).Yields q := by
  intro source before b h
  simp only [Seq.seq] at h
  split at h
  · rename_i g a hg ha
    obtain rfl := Except.ok.inj h
    exact hf source before g hg a (hx source _ a ha)
  · exact nomatch h
  · exact nomatch h
  · split at h
    · exact nomatch h
    · exact nomatch h

theorem Yields.seq_any {f : Fields (α → β)} (x : Fields α)
    (hf : f.Yields fun g => ∀ a, q (g a)) : (f <*> x).Yields q :=
  (yields_true x).seq fun source before g hg a _ => hf source before g hg a

theorem yields_field {name : String} {decode : Decoder α} {absent : Source → Option α}
    (hp : decode.Yields p) (habsent : ∀ source a, absent source = some a → p a) :
    (field name decode absent).Yields p := by
  intro source before a h
  simp only [field] at h
  split at h
  · exact hp _ a (mapError_eq_ok.mp h)
  · split at h
    · rename_i given hgiven
      obtain rfl := Except.ok.inj h
      exact habsent source given hgiven
    · exact nomatch h

theorem yields_required {name : String} {decode : Decoder α} (hp : decode.Yields p) :
    (required name decode).Yields p :=
  yields_field hp fun _ _ h => nomatch h

theorem yields_defaulted {name : String} {default : α} {decode : Decoder α} (hp : decode.Yields p)
    (hdefault : p default) : (defaulted name default decode).Yields p :=
  yields_field hp fun _ _ h => Option.some.inj h ▸ hdefault

theorem Yields.recordWith {fields : Fields α} (hp : fields.Yields p) (others : Bool) :
    (recordWith others fields).Yields p := by
  intro d a h
  unfold Fields.recordWith at h
  split at h
  case h_3 => exact nomatch h
  -- under names or listed, the fields are what was read of them
  all_goals
    dsimp only at h
    split at h
    · rename_i read hread
      split at h
      · obtain rfl := Except.ok.inj h
        exact hp _ 0 read hread
      · exact nomatch h
    · split at h
      · exact nomatch h
      · exact nomatch h

end Fields

/-- What a whole text is read as is what its document is read as. -/
theorem Decoder.Yields.decode {decoder : Decoder α} (hp : decoder.Yields p) {s : String} {a : α}
    (h : Json.decode decoder s = .ok a) : p a := by
  unfold Json.decode at h
  rcases hdocument : readDocument s with ⟨document, more⟩
  rw [hdocument] at h
  obtain ⟨read, hread, h⟩ := bind_eq_ok.mp h
  cases more with
  | true => exact nomatch h
  | false =>
    obtain rfl := Except.ok.inj h
    exact hp document read hread

end PrintFarm.Json

namespace PrintFarm.Api

open Json Fields

theorem yields_int32 : Decoder.int32.Yields fun n => fitsCount n = true := by
  intro d n h
  obtain ⟨hlow, hhigh⟩ := Decoder.yields_whole _ _ d n h
  simp only [fitsCount, Bool.and_eq_true, decide_eq_true_eq]
  exact ⟨hlow, hhigh⟩

/-- The quantity of an item that is read is a count. -/
theorem yields_newItem : newItem.Yields fun i => fitsCount i.quantity = true := by
  refine Yields.recordWith ?_ false
  refine .seq_any _ (.seq_any _ (.seq_any _ ?_))
  refine (yields_required yields_int32).seq ?_
  refine .seq_any _ ((yields_true _).map ?_)
  intro model _ name quantity hquantity _ _ _
  exact hquantity

/-- The quantities of the items of a run that is read are counts. -/
theorem yields_runRequest :
    runRequest.Yields fun request => ∀ i ∈ request.items, fitsCount i.quantity = true := by
  refine Yields.recordWith ?_ false
  refine .seq_any _ ?_
  refine (yields_defaulted yields_newItem.list ?_).seq ?_
  · exact fun _ hi => absurd hi List.not_mem_nil
  · refine (yields_true _).map ?_
    intro run _ items hitems materials
    exact hitems

end PrintFarm.Api
