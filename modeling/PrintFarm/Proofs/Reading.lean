import PrintFarm.Proofs.Decoding

/-!
# What a record says

`Fields` tell how a record is read. What it says is told here without them, by its parts: each has a
name, something that has to stand under that name, and perhaps a meaning of its absence.
`Document.Says` is about documents as a whole, so it is also about what else stands there:

* every name is one of a part, and no part is named twice, unless other names are allowed;
* in a list of values no value is left over;
* the list or record is closed.

`Decoder.Reads` connects the two: the decoder reads just the documents that say what it reads them
as.  There is one lemma for each kind of field, and `Decoder.Reads.recordWith` for the record.
-/

namespace PrintFarm.Json

variable {α β : Type}

/-- A part of a record: its name, what has to stand under it, and where it may be missing. -/
structure Part where
  name : String
  Stands : Document → Prop
  Lacks : Source → Prop

namespace Part

/-- The part is the value `a`, as `decode` reads it. -/
def required (name : String) (decode : Decoder α) (a : α) : Part where
  name
  Stands d := decode d = .ok a
  Lacks _ := False

/-- The part is the value `a` or `null`; a record may do without it. -/
def optional (name : String) (decode : Decoder α) (a : Option α) : Part where
  name
  Stands d := decode.optional d = .ok a
  Lacks source := (∃ fields, source = .named fields) ∧ a = none

/-- The part is the value `a`; its absence means `default`. -/
def defaulted (name : String) (default : α) (decode : Decoder α) (a : α) : Part where
  name
  Stands d := decode d = .ok a
  Lacks _ := a = default

/-- The part stands among the values, or may be missing there. -/
def In (p : Part) (source : Source) (position : Nat) : Prop :=
  match source.find? p.name position with
  | some (_, d) => p.Stands d
  | none => p.Lacks source

end Part

/-- The parts are in the values, the first one with that position. -/
def Source.Gives (source : Source) : Nat → List Part → Prop
  | _, [] => True
  | position, p :: parts => p.In source position ∧ source.Gives (position + 1) parts

/-- What the document says as a name. -/
def Document.word? : Document → Option String
  | .text (.ok n) _ => some n
  | _ => none

/-- The names of a record. -/
def words (values : List (Document × Document)) : List String :=
  values.filterMap fun f => f.1.word?

/-- The names in a document, which has none unless it is a record. -/
def Document.names : Document → List String
  | .record values _ => words values
  | _ => []

/-- The names of a record are readable, and those that are declared are not repeated. Others stand
there only if they are allowed, and what stands under them is skipped. -/
structure Names (declared : List String) (others : Bool) (values : List (Document × Document)) :
    Prop where
  readable : ∀ f ∈ values, ∀ fault skipped, f.1 ≠ .text (.error fault) skipped
  distinct : ((words values).filter (· ∈ declared)).Nodup
  known : ∀ f ∈ values, ∀ n, f.1.word? = some n →
    n ∈ declared ∨ others = true ∧ f.2.skipFault? = none

/-- The document says these parts, and nothing else unless other names are allowed. -/
inductive Document.Says (others : Bool) (parts : List Part) : Document → Prop
  | named {values : List (Document × Document)} :
    Names (parts.map Part.name) others values → (Source.named values).Gives 0 parts →
      Says others parts (.record values none)
  | listed {items : List Document} :
    items.length ≤ parts.length → (Source.listed items).Gives 0 parts →
      Says others parts (.list items none)

/-- The part is a list of records, which have the parts `parts`; its absence means that there are
none. -/
def Part.entries (name : String) (parts : α → List Part) (as : List α) : Part where
  name
  Stands d := ∃ items, d = .list items none ∧
    List.Forall₂ (fun item a => item.Says false (parts a)) items as
  Lacks _ := as = []

/-- The decoder reads just the documents that say what it reads them as. -/
def Decoder.Reads (decode : Decoder α) (others : Bool) (parts : α → List Part) : Prop :=
  ∀ d a, decode d = .ok a ↔ d.Says others (parts a)

/-! ## Names -/

theorem names_nil {declared : List String} {others : Bool} : Names declared others [] where
  readable := nofun
  distinct := List.nodup_nil
  known := nofun

theorem names_cons {declared : List String} {others : Bool} {name d : Document}
    {values : List (Document × Document)} : Names declared others ((name, d) :: values) ↔
      (∀ fault skipped, name ≠ .text (.error fault) skipped) ∧
      (∀ n, name.word? = some n →
        (n ∈ declared ∧ n ∉ words values) ∨ n ∉ declared ∧ others = true ∧ d.skipFault? = none) ∧
      Names declared others values := by
  constructor
  · rintro ⟨hreadable, hdistinct, hknown⟩
    obtain ⟨hname, hreadable⟩ := List.forall_mem_cons.mp hreadable
    obtain ⟨hn, hknown⟩ := List.forall_mem_cons.mp hknown
    refine ⟨hname, fun n hword => ?_, hreadable, ?_, hknown⟩
    · by_cases hmem : n ∈ declared
      · refine Or.inl ⟨hmem, fun hlater => ?_⟩
        simp only [words, List.filterMap_cons, hword] at hdistinct
        rw [List.filter_cons_of_pos (by simpa using hmem)] at hdistinct
        exact (List.nodup_cons.mp hdistinct).1
          (List.mem_filter.mpr ⟨hlater, by simpa using hmem⟩)
      · exact Or.inr ⟨hmem, (hn n hword).resolve_left hmem⟩
    · refine hdistinct.sublist (List.Sublist.filter _ ?_)
      exact (List.sublist_cons_self _ _).filterMap _
  · rintro ⟨hname, hn, hreadable, hdistinct, hknown⟩
    refine ⟨List.forall_mem_cons.mpr ⟨hname, hreadable⟩, ?_,
      List.forall_mem_cons.mpr ⟨fun n hword => (hn n hword).imp And.left And.right, hknown⟩⟩
    unfold words at hdistinct ⊢
    rw [List.filterMap_cons]
    cases hword : name.word? with
    | none => exact hdistinct
    | some n =>
      rcases hn n hword with ⟨hmem, hlater⟩ | ⟨hmem, -⟩
      · show (List.filter _ (n :: _)).Nodup
        rw [List.filter_cons_of_pos (by simpa using hmem)]
        exact List.nodup_cons.mpr ⟨fun h => hlater (List.mem_of_mem_filter h), hdistinct⟩
      · show (List.filter _ (n :: _)).Nodup
        rw [List.filter_cons_of_neg (by simpa using hmem)]
        exact hdistinct

/-- No fault is found in the names just where they are sound and none of them was seen before. -/
theorem Fields.nameFault?_eq_none {declared : List String} {others : Bool} {place : Nat}
    {seen : List String} {values : List (Document × Document)} :
    nameFault? declared others place seen values = none ↔
      Names declared others values ∧ ∀ n ∈ seen, n ∈ declared → n ∉ words values := by
  induction values generalizing place seen with
  | nil => exact ⟨fun _ => ⟨names_nil, fun _ _ _ => List.not_mem_nil⟩, fun _ => rfl⟩
  | cons f values ih =>
    obtain ⟨name, d⟩ := f
    rw [names_cons]
    unfold nameFault?
    split
    · simp
    · rename_i n skipped
      have hwords : words ((.text (.ok n) skipped, d) :: values) = n :: words values := rfl
      rw [hwords]
      split
      · rename_i hmem
        split
        · rename_i hseen
          refine ⟨nofun, fun h => absurd List.mem_cons_self (h.2 n hseen hmem)⟩
        · rename_i hseen
          rw [ih]
          grind [Document.word?]
      · rename_i hmem
        split
        · rename_i hothers
          split
          · grind [Document.word?]
          · rw [ih]
            grind [Document.word?]
        · grind [Document.word?]
    · rename_i hfault hword
      have hnone : name.word? = none := by
        cases name with
        | text content skipped =>
          cases content with
          | ok n => exact absurd rfl (hword n skipped)
          | error fault => exact absurd rfl (hfault fault skipped)
        | _ => rfl
      have hwords : words ((name, d) :: values) = words values := by
        simp [words, hnone]
      rw [ih, hwords, hnone]
      exact ⟨fun h => ⟨⟨hfault, nofun, h.1⟩, h.2⟩, fun h => ⟨h.1.2.2, h.2⟩⟩

/-- Where no other names are allowed, each name in a document is one of a part. -/
theorem Document.Says.declared {parts : List Part} {d : Document} (h : d.Says false parts)
    {n : String} (hn : n ∈ d.names) : ∃ p ∈ parts, p.name = n := by
  cases h with
  | named hnames _ =>
    obtain ⟨f, hf, hword⟩ := List.mem_filterMap.mp hn
    rcases hnames.known f hf n hword with hdeclared | ⟨hothers, -⟩
    · exact List.mem_map.mp hdeclared
    · exact nomatch hothers
  | listed => exact absurd hn List.not_mem_nil

/-! ## Fields -/

namespace Fields

variable {source : Source} {before : Nat}

@[simp] theorem names_map {f : α → β} {x : Fields α} : (f <$> x).names = x.names := rfl

@[simp] theorem names_seq {f : Fields (α → β)} {x : Fields α} :
    (f <*> x).names = f.names ++ x.names := rfl

@[simp] theorem names_required {name : String} {decode : Decoder α} :
    (required name decode).names = [name] := rfl

@[simp] theorem names_optional {name : String} {decode : Decoder α} :
    (optional name decode).names = [name] := rfl

@[simp] theorem names_defaulted {name : String} {default : α} {decode : Decoder α} :
    (defaulted name default decode).names = [name] := rfl

@[simp] theorem read_map {f : α → β} {x : Fields α} {b : β} :
    (f <$> x).read source before = .ok b ↔ ∃ a, x.read source before = .ok a ∧ f a = b :=
  map_eq_ok

@[simp] theorem read_seq {f : Fields (α → β)} {x : Fields α} {b : β} :
    (f <*> x).read source before = .ok b ↔ ∃ g, f.read source before = .ok g ∧
      ∃ a, x.read source (before + f.names.length) = .ok a ∧ g a = b := by
  simp only [Seq.seq]
  constructor
  · intro h
    split at h
    · rename_i g a hg ha
      exact ⟨g, hg, a, ha, Except.ok.inj h⟩
    · exact nomatch h
    · exact nomatch h
    · split at h
      · exact nomatch h
      · exact nomatch h
  · rintro ⟨g, hg, a, ha, rfl⟩
    rw [hg, ha]

theorem read_field {name : String} {decode : Decoder α} {absent : Source → Option α} {a : α} :
    (field name decode absent).read source before = .ok a ↔
      match source.find? name before with
      | some (_, d) => decode d = .ok a
      | none => absent source = some a := by
  simp only [field]
  cases source.find? name before with
  | some found => exact mapError_eq_ok
  | none =>
    cases absent source with
    | some given => simp
    | none => simp

@[simp] theorem read_required {name : String} {decode : Decoder α} {a : α} :
    (required name decode).read source before = .ok a ↔
      (Part.required name decode a).In source before := by
  rw [required, read_field]
  simp only [Part.In, Part.required]
  cases source.find? name before with
  | some found => rfl
  | none => simp

@[simp] theorem read_optional {name : String} {decode : Decoder α} {a : Option α} :
    (optional name decode).read source before = .ok a ↔
      (Part.optional name decode a).In source before := by
  rw [optional, read_field]
  simp only [Part.In, Part.optional]
  cases source.find? name before with
  | some found => rfl
  | none => cases source <;> simp [eq_comm]

@[simp] theorem read_defaulted {name : String} {default : α} {decode : Decoder α} {a : α} :
    (defaulted name default decode).read source before = .ok a ↔
      (Part.defaulted name default decode a).In source before := by
  rw [defaulted, read_field]
  simp only [Part.In, Part.defaulted]
  cases source.find? name before with
  | some found => rfl
  | none => simp [eq_comm]

end Fields

theorem mapM_eq_ok {decode : Decoder α} {items : List Document} {as : List α} :
    items.mapM decode = .ok as ↔ List.Forall₂ (fun d a => decode d = .ok a) items as := by
  induction items generalizing as with
  | nil => simp [pure, Except.pure, eq_comm]
  | cons d items ih =>
    simp only [List.mapM_cons, bind_eq_ok, List.forall₂_cons_left_iff, ih, pure, Except.pure,
      Except.ok.injEq]
    grind

theorem Decoder.list_eq_ok {decode : Decoder α} {d : Document} {as : List α} :
    list decode d = .ok as ↔
      ∃ items, d = .list items none ∧ List.Forall₂ (fun d a => decode d = .ok a) items as := by
  cases d with
  | list items ending =>
    cases ending with
    | none => simp [list, mapM_eq_ok]
    | some fault => simp [list]
  | _ => simp [list]

/-- A list of records is read as what its records say. -/
theorem Fields.read_entries {decode : Decoder α} {parts : α → List Part}
    (hreads : decode.Reads false parts) {name : String} {source : Source} {before : Nat}
    {as : List α} : (defaulted name [] (Decoder.list decode)).read source before = .ok as ↔
      (Part.entries name parts as).In source before := by
  rw [read_defaulted]
  simp only [Part.In, Part.defaulted, Part.entries, Decoder.list_eq_ok]
  cases source.find? name before with
  | some found => simp only [hreads _ _]
  | none => rfl

/-! ## Records -/

theorem Placed.earliest_eq_none {x y : Option Placed} :
    earliest x y = none ↔ x = none ∧ y = none := by
  cases x <;> cases y <;> simp [earliest]
  split <;> simp

/-- What is read is read without a fault, in the fields and in the shape. -/
theorem settled_eq_ok {read : Except Placed α} {shape : Option Placed} {a : α} :
    (match read with
      | .ok a => match shape with
        | none => .ok a
        | some p => .error p.fault
      | .error p => match Placed.earliest shape (some p) with
        | none => .error p.fault
        | some first => .error first.fault : Except Fault α) = .ok a ↔
      read = .ok a ∧ shape = none := by
  cases read with
  | ok given => cases shape <;> simp
  | error p =>
    dsimp only
    split <;> simp

theorem Fields.recordWith_record {fields : Fields α} {others : Bool}
    {values : List (Document × Document)} {ending : Option Fault} {a : α} :
    recordWith others fields (.record values ending) = .ok a ↔
      fields.read (.named values) 0 = .ok a ∧ Names fields.names others values ∧ ending = none := by
  refine settled_eq_ok.trans (and_congr_right fun _ => ?_)
  rw [Placed.earliest_eq_none, nameFault?_eq_none, Option.map_eq_none_iff]
  simp

theorem Fields.recordWith_list {fields : Fields α} {others : Bool} {items : List Document}
    {ending : Option Fault} {a : α} :
    recordWith others fields (.list items ending) = .ok a ↔
      fields.read (.listed items) 0 = .ok a ∧ items.length ≤ fields.names.length ∧
        ending = none := by
  refine settled_eq_ok.trans (and_congr_right fun _ => ?_)
  rw [Placed.earliest_eq_none, Option.map_eq_none_iff]
  simp

/-- A record reads what it says if its fields are read as its parts. -/
theorem Decoder.Reads.recordWith {fields : Fields α} {others : Bool} {parts : α → List Part}
    (hnames : ∀ a, (parts a).map Part.name = fields.names)
    (hread : ∀ source a, fields.read source 0 = .ok a ↔ source.Gives 0 (parts a)) :
    (Fields.recordWith others fields : Decoder α).Reads others parts := by
  intro d a
  have hlength : (parts a).length = fields.names.length := by
    rw [← hnames a, List.length_map]
  cases d with
  | record values ending =>
    rw [Fields.recordWith_record, hread, ← hnames a]
    constructor
    · rintro ⟨hgives, hvalues, rfl⟩
      exact .named hvalues hgives
    · rintro ⟨hvalues, hgives⟩
      exact ⟨hgives, hvalues, rfl⟩
  | list items ending =>
    rw [Fields.recordWith_list, hread, ← hlength]
    constructor
    · rintro ⟨hgives, hitems, rfl⟩
      exact .listed hitems hgives
    · rintro ⟨⟩
      rename_i hitems hgives
      exact ⟨hgives, hitems, rfl⟩
  | _ => exact ⟨nofun, nofun⟩

end PrintFarm.Json
