import PrintFarm.Proofs.Requests

/-!
# What a request for a run is refused for

All that is wrong with a request for a run is told at once.  `RunCheck` names what is checked, and
where; `RunCheck.Fails` says of each check on its own when it fails, without a word of the others.

* `Repeats` is what a check of a whole list looks for: an earlier entry with the same key.
* `walk_eq_failed` is about any walk through a list that counts the entries and collects their keys.
  With it `RunRequest.complaints_eq` reads the complaints as the failed checks, one entry for each.
* `RunRequest.pairwise_checks` and `RunRequest.mem_failed` say that these come in the order of the
  request, and that no failed check is left out.
* `RunCheck.field_injective` tells a check from the field of its entry, and `failed_checks_told`
  puts all together.
-/

namespace PrintFarm

/-! ## Checks -/

/-- What is checked of an item. -/
inductive ItemCheck
  | quantity
  | modelWeight
  | model
  deriving DecidableEq

/-- What is checked of a line. -/
inductive MaterialCheck
  | modelEstimate
  | flushed
  | tower
  | spool
  deriving DecidableEq

/-- What is checked of a request for a run. -/
inductive RunCheck
  | hours
  | items
  | item (index : Nat) (check : ItemCheck)
  | material (index : Nat) (check : MaterialCheck)
  deriving DecidableEq

namespace ItemCheck

def all : List ItemCheck := [quantity, modelWeight, model]

def rank : ItemCheck → Nat
  | quantity => 0
  | modelWeight => 1
  | model => 2

def field : ItemCheck → String
  | quantity => "quantity"
  | modelWeight => "model_weight_grams"
  | model => "model_id"

def problem {α : Type} : ItemCheck → Problem α
  | quantity => .belowOne
  | modelWeight => .negative
  | model => .repeatedModel

end ItemCheck

namespace MaterialCheck

def all : List MaterialCheck := [modelEstimate, flushed, tower, spool]

def rank : MaterialCheck → Nat
  | modelEstimate => 0
  | flushed => 1
  | tower => 2
  | spool => 3

def field : MaterialCheck → String
  | modelEstimate => "estimated_model_weight_grams"
  | flushed => "estimated_flushed_grams"
  | tower => "estimated_tower_grams"
  | spool => "spool_id"

def problem {α : Type} : MaterialCheck → Problem α
  | spool => .repeatedSpool
  | _ => .negative

end MaterialCheck

/-- The path of a field of the entry at `index`. -/
def entryPath (list : String) (index : Nat) (field : String) : String :=
  s!"{list}[{index}].{field}"

namespace RunCheck

/-- The place of a check in the request: the run, its items, then its lines, and each entry before
the next one. -/
def rank : RunCheck → List Nat
  | hours => [0]
  | items => [1]
  | item index check => [2, index, check.rank]
  | material index check => [3, index, check.rank]

def field : RunCheck → String
  | hours => "estimated_print_time_hours"
  | items => "items"
  | item index check => entryPath "items" index check.field
  | material index check => entryPath "materials" index check.field

/-- The entry for a check that failed. -/
def error {α : Type} (c : RunCheck) : FieldError α where
  field := c.field
  problem :=
    match c with
    | hours => .negative
    | items => .noItems
    | item _ check => check.problem
    | material _ check => check.problem

end RunCheck

/-! ## When a check fails -/

variable {α : Type} [Scalar α]

/-- The amount is no finite number, or it is below zero. -/
def IsFaulty (x : α) : Prop :=
  Scalar.isFinite x = false ∨ Scalar.lt x Scalar.zero = true

instance (x : α) : Decidable (IsFaulty x) :=
  inferInstanceAs (Decidable (_ ∨ _))

/-- An entry of the list before the one at `index` has the key `u`. -/
def Repeats {ε : Type} (key : ε → Uuid) (xs : List ε) (index : Nat) (u : Uuid) : Prop :=
  ∃ m < index, ∃ x ∈ xs[m]?, key x = u

instance {ε : Type} (key : ε → Uuid) (xs : List ε) (index : Nat) (u : Uuid) :
    Decidable (Repeats key xs index u) :=
  inferInstanceAs (Decidable (∃ m < index, ∃ x ∈ xs[m]?, key x = u))

/-- The check fails for the item `i` that stands at `index`. -/
def ItemCheck.Fails (items : List (NewItem α)) (index : Nat) (i : NewItem α) : ItemCheck → Prop
  | quantity => i.quantity < 1
  | modelWeight => ∃ x ∈ i.modelWeight, IsFaulty x
  | model => Repeats NewItem.model items index i.model

instance (items : List (NewItem α)) (index : Nat) (i : NewItem α) :
    (c : ItemCheck) → Decidable (c.Fails items index i)
  | .quantity => inferInstanceAs (Decidable (i.quantity < 1))
  | .modelWeight => inferInstanceAs (Decidable (∃ x ∈ i.modelWeight, IsFaulty x))
  | .model => inferInstanceAs (Decidable (Repeats _ _ _ _))

/-- The check fails for the line `m` that stands at `index`. -/
def MaterialCheck.Fails (materials : List (NewMaterial α)) (index : Nat) (m : NewMaterial α) :
    MaterialCheck → Prop
  | modelEstimate => IsFaulty m.estimatedModel
  | flushed => ∃ x ∈ m.estimatedFlushed, IsFaulty x
  | tower => ∃ x ∈ m.estimatedTower, IsFaulty x
  | spool => Repeats NewMaterial.spool materials index m.spool

instance (materials : List (NewMaterial α)) (index : Nat) (m : NewMaterial α) :
    (c : MaterialCheck) → Decidable (c.Fails materials index m)
  | .modelEstimate => inferInstanceAs (Decidable (IsFaulty _))
  | .flushed => inferInstanceAs (Decidable (∃ x ∈ m.estimatedFlushed, IsFaulty x))
  | .tower => inferInstanceAs (Decidable (∃ x ∈ m.estimatedTower, IsFaulty x))
  | .spool => inferInstanceAs (Decidable (Repeats _ _ _ _))

/-- The check fails for the request.  Where there is no entry, no check of it fails. -/
def RunCheck.Fails (request : RunRequest α) : RunCheck → Prop
  | hours => IsFaulty request.run.estimatedHours
  | items => request.items = []
  | item index check => ∃ i ∈ request.items[index]?, check.Fails request.items index i
  | material index check =>
    ∃ m ∈ request.materials[index]?, check.Fails request.materials index m

instance (request : RunRequest α) : (c : RunCheck) → Decidable (c.Fails request)
  | .hours => inferInstanceAs (Decidable (IsFaulty _))
  | .items => inferInstanceAs (Decidable (request.items = []))
  | .item index check =>
    inferInstanceAs (Decidable (∃ i ∈ request.items[index]?, check.Fails request.items index i))
  | .material index check =>
    inferInstanceAs
      (Decidable (∃ m ∈ request.materials[index]?, check.Fails request.materials index m))

/-- All checks of a request, in the order of the request. -/
def RunRequest.checks (request : RunRequest α) : List RunCheck :=
  [RunCheck.hours] ++ [RunCheck.items] ++
    ((List.range request.items.length).flatMap fun n => ItemCheck.all.map (RunCheck.item n)) ++
    (List.range request.materials.length).flatMap fun n =>
      MaterialCheck.all.map (RunCheck.material n)

/-- The checks that fail, in the order of the request. -/
def RunRequest.failed (request : RunRequest α) : List RunCheck :=
  request.checks.filter fun c => c.Fails request

/-! ## Lists that are walked through -/

omit [Scalar α] in
/-- A walk that counts the entries and collects their keys looks at each entry with its index and
the keys before it. -/
theorem walk_eq_flatMap {ε δ : Type} {key : ε → Uuid} {look : Nat → List Uuid → ε → List δ}
    {walk : Nat → List Uuid → List ε → List δ} (hnil : ∀ n earlier, walk n earlier [] = [])
    (hcons : ∀ n earlier x xs,
      walk n earlier (x :: xs) = look n earlier x ++ walk (n + 1) (key x :: earlier) xs)
    (n : Nat) (earlier : List Uuid) (xs : List ε) :
    walk n earlier xs = (List.range xs.length).flatMap fun m =>
      xs[m]?.toList.flatMap (look (n + m) (((xs.take m).map key).reverse ++ earlier)) := by
  -- counter and keys have moved on where the rest is walked, so both are left open
  induction xs generalizing n earlier with
  | nil => exact hnil n earlier
  | cons x xs ih =>
    rw [hcons, ih, List.length_cons, List.range_succ_eq_map, List.flatMap_cons, List.flatMap_map]
    congr 1
    · simp
    · refine List.flatMap_congr fun m _ => ?_
      rw [List.getElem?_cons_succ, List.take_succ_cons, List.map_cons, List.reverse_cons,
        List.append_assoc, List.singleton_append, Nat.add_assoc, Nat.add_comm 1]

omit [Scalar α] in
/-- The keys before an index have the keys that are repeated there. -/
theorem contains_keys {ε : Type} (key : ε → Uuid) (xs : List ε) (index : Nat) (u : Uuid) :
    ((xs.take index).map key).reverse.contains u = decide (Repeats key xs index u) := by
  rw [Bool.eq_iff_iff, List.contains_iff_mem, decide_eq_true_iff, List.mem_reverse, List.mem_map]
  constructor
  · rintro ⟨x, hx, hkey⟩
    obtain ⟨m, hm⟩ := List.mem_iff_getElem?.mp hx
    rw [List.getElem?_take] at hm
    split at hm
    · rename_i hlt
      exact ⟨m, hlt, x, hm, hkey⟩
    · exact nomatch hm
  · rintro ⟨m, hlt, x, hm, hkey⟩
    exact ⟨x, List.mem_iff_getElem?.mpr ⟨m, (List.getElem?_take_of_lt hlt).trans hm⟩, hkey⟩

/-! ## Complaints -/

theorem not_isNonNegative_eq (x : α) : (!Scalar.isNonNegative x) = decide (IsFaulty x) := by
  rw [Bool.eq_iff_iff, decide_eq_true_iff, Bool.not_eq_true', ← Bool.not_eq_true,
    Scalar.isNonNegative_iff, IsFaulty, not_and_or, Bool.not_eq_true, Bool.not_eq_false]

theorem any_not_isNonNegative_eq (x : Option α) :
    (x.any fun y => !Scalar.isNonNegative y) = decide (∃ y ∈ x, IsFaulty y) := by
  cases x <;> simp [not_isNonNegative_eq]

omit [Scalar α] in
/-- A complaint is the entry for a check that failed, or nothing. -/
theorem complaint_eq_filter {γ : Type} {p : γ → Bool} {c : γ} {wrong : Bool} {field : String}
    {problem : Problem α} (error : γ → FieldError α) (hwrong : wrong = p c)
    (herror : error c = ⟨field, problem⟩) :
    complaint wrong field problem = ([c].filter p).map error := by
  subst hwrong
  cases h : p c <;> simp [complaint, h, herror]

omit [Scalar α] in
theorem entryPlace_append (list field : String) (index : Nat) :
    entryPlace list index ++ field = entryPath list index field := by
  simp only [entryPlace, entryPath, String.append_assoc]
  rfl

omit [Scalar α] in
theorem RunCheck.error_item (index : Nat) (c : ItemCheck) :
    (item index c).error = (⟨entryPlace "items" index ++ c.field, c.problem⟩ : FieldError α) := by
  rw [entryPlace_append]
  rfl

omit [Scalar α] in
theorem RunCheck.error_material (index : Nat) (c : MaterialCheck) :
    (material index c).error =
      (⟨entryPlace "materials" index ++ c.field, c.problem⟩ : FieldError α) := by
  rw [entryPlace_append]
  rfl

theorem NewItem.complaints_eq (items : List (NewItem α)) (index : Nat) (i : NewItem α) :
    i.complaints (entryPlace "items" index) ((items.take index).map NewItem.model).reverse =
      (ItemCheck.all.filter fun c => c.Fails items index i).map fun c =>
        (RunCheck.item index c).error := by
  have hall : ItemCheck.all =
      [ItemCheck.quantity] ++ [ItemCheck.modelWeight] ++ [ItemCheck.model] := rfl
  rw [hall, List.filter_append, List.filter_append, List.map_append, List.map_append, complaints]
  congr 1
  · congr 1
    · exact complaint_eq_filter _ rfl (RunCheck.error_item _ _)
    · exact complaint_eq_filter _ (any_not_isNonNegative_eq _) (RunCheck.error_item _ _)
  · exact complaint_eq_filter _ (contains_keys _ _ _ _) (RunCheck.error_item _ _)

theorem NewMaterial.complaints_eq (materials : List (NewMaterial α)) (index : Nat)
    (m : NewMaterial α) :
    m.complaints (entryPlace "materials" index) ++
      complaint (((materials.take index).map NewMaterial.spool).reverse.contains m.spool)
        (entryPlace "materials" index ++ "spool_id") .repeatedSpool =
      (MaterialCheck.all.filter fun c => c.Fails materials index m).map fun c =>
        (RunCheck.material index c).error := by
  have hall : MaterialCheck.all = [MaterialCheck.modelEstimate] ++ [MaterialCheck.flushed] ++
      [MaterialCheck.tower] ++ [MaterialCheck.spool] := rfl
  have hmodel : ((some m.estimatedModel).any fun x => !Scalar.isNonNegative x) =
      decide (IsFaulty m.estimatedModel) := not_isNonNegative_eq _
  rw [hall, List.filter_append, List.filter_append, List.filter_append, List.map_append,
    List.map_append, List.map_append, complaints]
  congr 1
  · congr 1
    · congr 1
      · exact complaint_eq_filter _ hmodel (RunCheck.error_material _ _)
      · exact complaint_eq_filter _ (any_not_isNonNegative_eq _) (RunCheck.error_material _ _)
    · exact complaint_eq_filter _ (any_not_isNonNegative_eq _) (RunCheck.error_material _ _)
  · exact complaint_eq_filter _ (contains_keys _ _ _ _) (RunCheck.error_material _ _)

omit [Scalar α] in
/-- Where each entry of a list is looked at for its checks, the walk finds those that fail. -/
theorem walk_eq_failed {ε γ : Type} {key : ε → Uuid}
    {look : Nat → List Uuid → ε → List (FieldError α)}
    {walk : Nat → List Uuid → List ε → List (FieldError α)} {xs : List ε} {all : List γ}
    {place : Nat → γ → RunCheck} {fails : RunCheck → Bool}
    (hnil : ∀ n earlier, walk n earlier [] = [])
    (hcons : ∀ n earlier x xs,
      walk n earlier (x :: xs) = look n earlier x ++ walk (n + 1) (key x :: earlier) xs)
    (hlook : ∀ n x, xs[n]? = some x → look n ((xs.take n).map key).reverse x =
      (all.filter fun c => fails (place n c)).map fun c => (place n c).error) :
    walk 0 [] xs =
      (((List.range xs.length).flatMap fun n => all.map (place n)).filter fails).map
        RunCheck.error := by
  rw [walk_eq_flatMap hnil hcons, List.filter_flatMap, List.map_flatMap]
  refine List.flatMap_congr fun n hn => ?_
  have hentry := List.getElem?_eq_getElem (List.mem_range.mp hn)
  rw [hentry, Option.toList_some, List.flatMap_singleton, Nat.zero_add, List.append_nil,
    hlook n _ hentry, List.filter_map, List.map_map]
  rfl

theorem itemComplaints_eq (request : RunRequest α) :
    itemComplaints 0 [] request.items =
      (((List.range request.items.length).flatMap fun n => ItemCheck.all.map (.item n)).filter
        fun c : RunCheck => c.Fails request).map RunCheck.error := by
  have hcons : ∀ n earlier (i : NewItem α) rest, itemComplaints n earlier (i :: rest) =
      i.complaints (entryPlace "items" n) earlier ++
        itemComplaints (n + 1) (i.model :: earlier) rest := fun _ _ _ _ => rfl
  refine walk_eq_failed (fun _ _ => rfl) hcons fun n i hi => ?_
  rw [NewItem.complaints_eq]
  refine congrArg (List.map _) (List.filter_congr fun c _ => ?_)
  simp [RunCheck.Fails, hi]

theorem materialComplaints_eq (request : RunRequest α) :
    materialComplaints 0 [] request.materials =
      (((List.range request.materials.length).flatMap fun n =>
        MaterialCheck.all.map (.material n)).filter
          fun c : RunCheck => c.Fails request).map RunCheck.error := by
  have hcons : ∀ n earlier (m : NewMaterial α) rest, materialComplaints n earlier (m :: rest) =
      (m.complaints (entryPlace "materials" n) ++
        complaint (earlier.contains m.spool) (entryPlace "materials" n ++ "spool_id")
          .repeatedSpool) ++
        materialComplaints (n + 1) (m.spool :: earlier) rest := fun _ _ _ _ => rfl
  refine walk_eq_failed (fun _ _ => rfl) hcons fun n m hm => ?_
  rw [NewMaterial.complaints_eq]
  refine congrArg (List.map _) (List.filter_congr fun c _ => ?_)
  simp [RunCheck.Fails, hm]

theorem RunRequest.complaints_eq (request : RunRequest α) :
    request.complaints = request.failed.map RunCheck.error := by
  have hitems : request.items.isEmpty = decide (request.items = []) := by
    rw [Bool.eq_iff_iff, List.isEmpty_iff, decide_eq_true_iff]
  rw [failed, checks, List.filter_append, List.filter_append, List.filter_append, List.map_append,
    List.map_append, List.map_append, ← itemComplaints_eq, ← materialComplaints_eq, complaints]
  congr 1
  congr 1
  congr 1
  · exact complaint_eq_filter _ (not_isNonNegative_eq _) rfl
  · exact complaint_eq_filter _ hitems rfl

/-! ## The order of the checks -/

theorem rank_lt_of_part {part part' : Nat} {rest rest' : List Nat} (h : part < part') :
    part :: rest < part' :: rest' :=
  List.cons_lt_cons_iff.mpr (Or.inl h)

theorem rank_lt_of_entry {part n m a b : Nat} (h : n < m ∨ n = m ∧ a < b) :
    [part, n, a] < [part, m, b] := by
  simpa [List.cons_lt_cons_iff] using h

/-- Checks of the entries of a list come in order, if those of one entry do. -/
theorem pairwise_entries {γ : Type} {all : List γ} {rank : γ → Nat} {place : Nat → γ → RunCheck}
    {part : Nat} (hplace : ∀ n c, (place n c).rank = [part, n, rank c])
    (hall : all.Pairwise fun c d => rank c < rank d) (length : Nat) :
    ((List.range length).flatMap fun n => all.map (place n)).Pairwise
      fun c d => c.rank < d.rank := by
  refine List.pairwise_flatMap.mpr ⟨fun n _ => ?_, ?_⟩
  · refine List.pairwise_map.mpr (hall.imp fun hlt => ?_)
    rw [hplace, hplace]
    exact rank_lt_of_entry (Or.inr ⟨rfl, hlt⟩)
  · refine List.pairwise_lt_range.imp fun hlt c hc d hd => ?_
    obtain ⟨c, -, rfl⟩ := List.mem_map.mp hc
    obtain ⟨d, -, rfl⟩ := List.mem_map.mp hd
    rw [hplace, hplace]
    exact rank_lt_of_entry (Or.inl hlt)

omit [Scalar α] in
theorem RunRequest.pairwise_checks (request : RunRequest α) :
    request.checks.Pairwise fun c d => c.rank < d.rank := by
  have hitems : ((List.range request.items.length).flatMap fun n =>
      ItemCheck.all.map (RunCheck.item n)).Pairwise fun c d => c.rank < d.rank :=
    pairwise_entries (fun _ _ => rfl) (by decide) _
  have hmaterials : ((List.range request.materials.length).flatMap fun n =>
      MaterialCheck.all.map (RunCheck.material n)).Pairwise fun c d => c.rank < d.rank :=
    pairwise_entries (fun _ _ => rfl) (by decide) _
  simp only [checks, List.pairwise_append, List.pairwise_singleton, List.mem_append,
    List.mem_singleton, List.mem_flatMap, List.mem_map]
  refine ⟨⟨⟨trivial, trivial, ?_⟩, hitems, ?_⟩, hmaterials, ?_⟩
  · rintro _ rfl _ rfl
    decide
  · rintro _ (rfl | rfl) _ ⟨n, -, c, -, rfl⟩ <;> exact rank_lt_of_part (by decide)
  · rintro _ ((rfl | rfl) | ⟨n, -, c, -, rfl⟩) _ ⟨m, -, d, -, rfl⟩ <;>
      exact rank_lt_of_part (by decide)

theorem RunRequest.mem_failed {request : RunRequest α} {c : RunCheck} :
    c ∈ request.failed ↔ c.Fails request := by
  rw [failed, List.mem_filter, decide_eq_true_iff]
  refine and_iff_right_of_imp fun h => ?_
  cases c with
  | hours => simp [checks]
  | items => simp [checks]
  | item n check =>
    obtain ⟨i, hi, -⟩ := h
    have hlt := (List.getElem?_eq_some_iff.mp hi).1
    have hall : check ∈ ItemCheck.all := by cases check <;> decide
    simp [checks, hlt, hall]
  | material n check =>
    obtain ⟨m, hm, -⟩ := h
    have hlt := (List.getElem?_eq_some_iff.mp hm).1
    have hall : check ∈ MaterialCheck.all := by cases check <;> decide
    simp [checks, hlt, hall]

/-! ## The fields of the checks -/

theorem toList_entryPath (list field : String) (n : Nat) :
    (entryPath list n field).toList =
      list.toList ++ '[' :: (Nat.toDigits 10 n ++ ']' :: '.' :: field.toList) := by
  simp only [entryPath, String.toList_append, ToString.toString, Nat.toList_repr, List.append_assoc]
  rfl

/-- Texts are cut at a character in one way if it is not in front of the cut. -/
theorem append_cons_inj {front front' back back' : List Char} {c : Char} (hfront : c ∉ front)
    (hfront' : c ∉ front') (h : front ++ c :: back = front' ++ c :: back') :
    front = front' ∧ back = back' := by
  have hcut : ∀ {cs rest : List Char}, c ∉ cs → (cs ++ c :: rest).takeWhile (· ≠ c) = cs := by
    intro cs rest hcs
    rw [List.takeWhile_append_of_pos fun d hd => decide_eq_true (ne_of_mem_of_not_mem hd hcs)]
    simp
  obtain rfl : front = front' := by rw [← hcut hfront, h, hcut hfront']
  exact ⟨rfl, (List.cons.inj (List.append_cancel_left h)).2⟩

/-- The path of a field tells the list, the index in it, and the field. -/
theorem entryPath_inj {list list' field field' : String} {n n' : Nat} (hlist : '[' ∉ list.toList)
    (hlist' : '[' ∉ list'.toList) (h : entryPath list n field = entryPath list' n' field') :
    list = list' ∧ n = n' ∧ field = field' := by
  have hdigits : ∀ k, ']' ∉ Nat.toDigits 10 k := fun k hk =>
    absurd (Nat.isDigit_of_mem_toDigits (by decide) (by decide) hk) (by decide)
  have hpath := congrArg String.toList h
  rw [toList_entryPath, toList_entryPath] at hpath
  obtain ⟨hlists, hindex⟩ := append_cons_inj hlist hlist' hpath
  obtain ⟨hindices, hfields⟩ := append_cons_inj (hdigits n) (hdigits n') hindex
  refine ⟨String.toList_injective hlists, ?_, String.toList_injective (List.cons.inj hfields).2⟩
  calc n = Nat.ofDigitChars 10 (Nat.toDigits 10 n) 0 := Nat.ofDigitChars_ten_toDigits.symm
    _ = Nat.ofDigitChars 10 (Nat.toDigits 10 n') 0 := by rw [hindices]
    _ = n' := Nat.ofDigitChars_ten_toDigits

theorem entryPath_ne {list field text : String} {n : Nat} (htext : '[' ∉ text.toList) :
    entryPath list n field ≠ text := by
  rintro rfl
  rw [toList_entryPath] at htext
  exact htext (List.mem_append_right _ List.mem_cons_self)

theorem ItemCheck.field_injective : Function.Injective field := by
  intro c d h
  cases c <;> cases d <;> first | rfl | exact absurd h (by decide)

theorem MaterialCheck.field_injective : Function.Injective field := by
  intro c d h
  cases c <;> cases d <;> first | rfl | exact absurd h (by decide)

/-- The field of an entry tells which check failed. -/
theorem RunCheck.field_injective : Function.Injective field := by
  have hitems : '[' ∉ "items".toList := by decide
  have hmaterials : '[' ∉ "materials".toList := by decide
  intro c d h
  match c, d, h with
  | hours, hours, _ | items, items, _ => rfl
  | hours, items, h | items, hours, h => exact absurd h (by decide)
  | item n c, item m d, h =>
    obtain ⟨-, rfl, hfield⟩ := entryPath_inj hitems hitems h
    rw [ItemCheck.field_injective hfield]
  | material n c, material m d, h =>
    obtain ⟨-, rfl, hfield⟩ := entryPath_inj hmaterials hmaterials h
    rw [MaterialCheck.field_injective hfield]
  | item .., material .., h => exact absurd (entryPath_inj hitems hmaterials h).1 (by decide)
  | material .., item .., h => exact absurd (entryPath_inj hmaterials hitems h).1 (by decide)
  | item .., hours, h | item .., items, h | material .., hours, h | material .., items, h =>
    exact absurd h (entryPath_ne (by decide))
  | hours, item .., h | items, item .., h | hours, material .., h | items, material .., h =>
    exact absurd h.symm (entryPath_ne (by decide))

omit [Scalar α] in
theorem RunCheck.error_injective : Function.Injective (error : RunCheck → FieldError α) :=
  fun _ _ h => field_injective (congrArg FieldError.field h)

/-- Of a check that failed there is an entry, and of no other one. -/
theorem RunRequest.error_mem_complaints {request : RunRequest α} {c : RunCheck} :
    c.error ∈ request.complaints ↔ c.Fails request := by
  rw [complaints_eq, List.mem_map_of_injective RunCheck.error_injective, mem_failed]

/-! ## Keys that come more than once -/

omit [Scalar α] in
/-- A key is repeated wherever it comes but where it comes first. -/
theorem repeats_iff_findIdx_lt {ε : Type} {key : ε → Uuid} {xs : List ε} {index : Nat} {x : ε}
    (hx : xs[index]? = some x) :
    Repeats key xs index (key x) ↔ xs.findIdx (fun y => key y = key x) < index := by
  constructor
  · rintro ⟨m, hlt, y, hy, hkey⟩
    obtain ⟨hm, rfl⟩ := List.getElem?_eq_some_iff.mp hy
    refine Nat.lt_of_le_of_lt (Nat.le_of_not_lt fun hfirst => ?_) hlt
    exact absurd hkey (of_decide_eq_false (List.not_of_lt_findIdx hfirst))
  · intro hlt
    have hlength := Nat.lt_trans hlt (List.getElem?_eq_some_iff.mp hx).1
    have hkey := List.findIdx_getElem (w := hlength)
    exact ⟨_, hlt, _, List.getElem?_eq_getElem hlength, of_decide_eq_true hkey⟩

theorem fails_model_iff {request : RunRequest α} {n : Nat} :
    (RunCheck.item n .model).Fails request ↔
      ∃ i ∈ request.items[n]?, request.items.findIdx (fun j => j.model = i.model) < n :=
  exists_congr fun _ => and_congr_right fun hi => repeats_iff_findIdx_lt hi

theorem fails_spool_iff {request : RunRequest α} {n : Nat} :
    (RunCheck.material n .spool).Fails request ↔
      ∃ m ∈ request.materials[n]?, request.materials.findIdx (fun l => l.spool = m.spool) < n :=
  exists_congr fun _ => and_congr_right fun hm => repeats_iff_findIdx_lt hm

/-! ## Every request -/

/-- The complaints about a request are the entries for the checks that fail, in the order of the
request, and each check that fails has its own.  A model or a spool that comes more than once is
complained of wherever it comes again, and not where it comes first. -/
theorem failed_checks_told (request : RunRequest α) :
    request.complaints = request.failed.map RunCheck.error ∧
    request.failed.Pairwise (fun c d => c.rank < d.rank) ∧
    (∀ c, c ∈ request.failed ↔ c.Fails request) ∧
    Function.Injective RunCheck.field ∧
    (∀ c : RunCheck, c.error ∈ request.complaints ↔ c.Fails request) ∧
    (∀ n, (RunCheck.item n .model).error ∈ request.complaints ↔
      ∃ i ∈ request.items[n]?, request.items.findIdx (fun j => j.model = i.model) < n) ∧
    ∀ n, (RunCheck.material n .spool).error ∈ request.complaints ↔
      ∃ m ∈ request.materials[n]?, request.materials.findIdx (fun l => l.spool = m.spool) < n :=
  ⟨request.complaints_eq, request.pairwise_checks.filter _, fun _ => RunRequest.mem_failed,
    RunCheck.field_injective, fun _ => RunRequest.error_mem_complaints,
    fun _ => RunRequest.error_mem_complaints.trans fails_model_iff,
    fun _ => RunRequest.error_mem_complaints.trans fails_spool_iff⟩

/-- One model comes three times, and one spool twice. -/
example :
    let item (model : Nat) (quantity : Int) (weight : Option Float) : NewItem Float :=
      ⟨.numbered 9 model, none, quantity, none, weight, none⟩
    let request : RunRequest Float :=
      ⟨⟨none, -1.0, none, none, none, none, none⟩,
        [item 1 2 none, item 2 0 (some (0.0 / 0.0)), item 1 1 none, item 1 0 none],
        [⟨.numbered 1 1, 40.0, none, none⟩, ⟨.numbered 1 1, 40.0, some (1.0 / 0.0), some (-2.0)⟩]⟩
    request.failed =
      [.hours, .item 1 .quantity, .item 1 .modelWeight, .item 2 .model, .item 3 .quantity,
        .item 3 .model, .material 1 .flushed, .material 1 .tower, .material 1 .spool] := by
  decide +kernel

end PrintFarm
