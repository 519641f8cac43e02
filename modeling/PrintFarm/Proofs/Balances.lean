import PrintFarm.Proofs.Arithmetic
import PrintFarm.Proofs.History

/-!
# The balance of a spool

The weight of a spool and the journal are written separately, by three ways of ending a run and for
many runs that use the same spools.  They agree all the same: the rows of a spool form a chain that
begins at the weight the spool was registered with and ends at its present weight.

* `Ledger.Chain` is what the rows of one spool have to be.
* `Step.ledger` is the step lemma: an accepted operation adds rows to the journal, and for each
  spool the added rows lead from its weight before to its weight after.
* `Ledger.Balanced` says what holds of a history and the database after it, and `balanced_history`
  proves it for all histories.
* `Ledger.Chain.conserved` reads the chain as exact arithmetic.
-/

namespace PrintFarm

open Scalar (IsAmount)

variable {α : Type} [Scalar α]

/-! ## Chains -/

/-- The rows lead from a spool of weight `w` to a spool of weight `left`: each row begins at the
weight that is left, and takes from it an amount above zero that it holds. -/
def Ledger.Chain (w : α) : List (Deduction α) → α → Prop
  | [], left => left = w
  | d :: rows, left =>
    d.weightBefore = w ∧
    d.weightAfter = d.weightBefore - d.grams ∧
    Scalar.lt Scalar.zero d.grams = true ∧
    Scalar.le d.grams d.weightBefore = true ∧
    Ledger.Chain d.weightAfter rows left

theorem Ledger.Chain.append {rows later : List (Deduction α)} {w middle left : α}
    (h₁ : Chain w rows middle) (h₂ : Chain middle later left) : Chain w (rows ++ later) left := by
  induction rows generalizing w with
  | nil =>
    obtain rfl : middle = w := h₁
    exact h₂
  | cons d rows ih =>
    obtain ⟨hbefore, hafter, hpositive, henough, hrest⟩ := h₁
    exact ⟨hbefore, hafter, hpositive, henough, ih hrest⟩

/-- In exact arithmetic nothing is lost: what was there at first is what is left and what was
journaled. -/
theorem Ledger.Chain.conserved {rows : List (Deduction Rat)} {w left : Rat}
    (h : Chain w rows left) : w = left + (rows.map fun d => d.grams).sum := by
  induction rows generalizing w with
  | nil =>
    obtain rfl : left = w := h
    exact (Rat.add_zero left).symm
  | cons d rows ih =>
    obtain ⟨hbefore, hafter, -, -, hrest⟩ := h
    have hleft := ih hrest
    rw [hafter, hbefore] at hleft
    rw [List.map_cons, List.sum_cons]
    grind

/-- In exact arithmetic a row takes something away. -/
theorem Ledger.Chain.lowers {rows : List (Deduction Rat)} {w left : Rat} (h : Chain w rows left)
    (hrows : rows ≠ []) : left < w := by
  induction rows generalizing w with
  | nil => exact absurd rfl hrows
  | cons d rows ih =>
    obtain ⟨hbefore, hafter, hpositive, -, hrest⟩ := h
    have hpositive : (0 : Rat) < d.grams := of_decide_eq_true hpositive
    have hfirst : d.weightAfter < w := by
      rw [hafter, hbefore]
      grind
    by_cases hnil : rows = []
    · subst hnil
      obtain rfl : left = d.weightAfter := hrest
      exact hfirst
    · have hlater := ih hrest hnil
      grind

/-- The rows of the journal for a spool, from the first one on. -/
def Tables.ledgerOf (t : Tables α) (spool : Uuid) : List (Deduction α) :=
  t.deductions.filter fun d => d.spool = spool

/-! ## One step -/

namespace Ledger

/-- The rows of one end of a run lead from the weight before to the weight after. -/
theorem chain_reweighed [LawfulScalar α] {now : Timestamp} {run : Uuid} {target : RunStatus}
    {reason : DeductionReason} {spools : List (Spool α)} {usage : UsageTable α}
    {rows : List (Deduction α)} (hids : (spools.map Spool.id).Nodup)
    (husage : (usage.map SpoolUsage.spool).Nodup)
    (hrows : List.Forall₂ (Deducted now run target reason spools) usage rows) {s : Spool α}
    (hs : s ∈ spools) :
    Chain s.weight (rows.filter fun d => d.spool = s.id) (reweighed now rows s).weight := by
  have hspools : (rows.map fun d => d.spool).Nodup := by
    rw [map_eq_of_forall₂ (fun u d h => h.spool_eq) hrows]
    exact husage
  cases hfind : rows.find? fun d => d.spool = s.id with
  | none =>
    have hnone : rows.filter (fun d => d.spool = s.id) = [] :=
      List.filter_eq_nil_iff.mpr fun d hd => by simpa using List.find?_eq_none.mp hfind d hd
    rw [hnone, reweighed, hfind]
    rfl
  | some d =>
    have hd := List.mem_of_find?_eq_some hfind
    have hspool : d.spool = s.id := by simpa using List.find?_some hfind
    have hone : rows.filter (fun d => d.spool = s.id) = [d] :=
      hspool ▸ filter_of_nodup hspools hd
    obtain ⟨u, -, hu⟩ := exists_of_forall₂ hrows hd
    obtain ⟨r, hr, hid, hweight⟩ := hu.stock
    obtain rfl : r = s := eq_of_key_eq hids hr hs (hid.trans hspool)
    rw [hone, reweighed, hfind]
    refine ⟨hweight.symm, hu.left, hu.positive, ?_, rfl⟩
    exact LawfulScalar.le_of_not_lt _ _ hu.numbers.1 hu.numbers.2.1 hu.enough

end Ledger

/-- The operation registers a spool if it is accepted. -/
def Operation.isRegistering : Operation α → Bool
  | .createSpool _ => true
  | _ => false

/-- An accepted operation on the spools that are there only adds rows to the journal, and what it
adds for a spool leads from the weight before to the weight after. -/
theorem Step.ledger [LawfulScalar α] {catalog : Catalog} {now : Timestamp} {t t' : Tables α}
    {op : Operation α} (ht : t.Consistent) (h : Step catalog now t op t')
    (hop : op.isRegistering = false) :
    ∃ rows, t'.deductions = t.deductions ++ rows ∧
      t'.spools = t.spools.map (Ledger.reweighed now rows) ∧
      ∀ s ∈ t.spools, Ledger.Chain s.weight (rows.filter fun d => d.spool = s.id)
        (Ledger.reweighed now rows s).weight := by
  cases h with
  | createSpool => exact nomatch hop
  | @close _ _ _ _ _ rows _ _ hcloses _ hrows =>
    exact ⟨rows, rfl, rfl, fun s hs =>
      Ledger.chain_reweighed ht.spoolIds hcloses.nodup_spools hrows hs⟩
  | _ => exact ⟨[], (List.append_nil _).symm, (List.map_id _).symm, fun _ _ => rfl⟩

/-! ## All steps -/

/-- The identifier that a spool got at this moment, and the weight it was registered with. -/
def Moment.registration? (m : Moment α) : Option (Uuid × α) :=
  match m.event.operation, m.outcome with
  | .createSpool new, .ok (.spool s) => some (s.id, new.weight)
  | _, _ => none

/-- The spools that were registered in the past, with the weights they were registered with. -/
def registrations (past : List (Moment α)) : List (Uuid × α) :=
  past.filterMap Moment.registration?

/-- What the moment has done to a spool that was there: it has added rows to its ledger that lead
from its weight before to its weight after, and has left it alone if there are none. -/
def Moment.Books (m : Moment α) (s : Spool α) : Prop :=
  ∃ s' ∈ m.after.tables.spools, s'.id = s.id ∧
    ∃ rows, m.after.tables.ledgerOf s.id = m.before.tables.ledgerOf s.id ++ rows ∧
      Ledger.Chain s.weight rows s'.weight ∧ (rows = [] → s' = s)

/-- The spools of the database are those that were registered, the journal is listed by number, and
the rows of each spool lead from the weight it was registered with to its weight, which is not below
zero.  And so it went at every moment. -/
structure Ledger.Balanced (past : List (Moment α)) (db : Database α) : Prop where
  registered : db.tables.spools.map Spool.id = (registrations past).map Prod.fst
  distinct : ((registrations past).map Prod.fst).Nodup
  listed : db.tables.deductions.Pairwise fun d e => d.number < e.number
  chained : ∀ r ∈ registrations past, ∀ s ∈ db.tables.spools, s.id = r.1 →
    Ledger.Chain r.2 (db.tables.ledgerOf s.id) s.weight
  notBelow : ∀ s ∈ db.tables.spools, IsAmount s.weight
  booked : ∀ m ∈ past, ∀ s ∈ m.before.tables.spools, m.Books s

/-- A registered spool is a new row, and the answer shows it. -/
theorem registers {e : Event α} {db : Database α} {new : NewSpool α} {answer : Answer α}
    (hop : e.operation = .createSpool new) (hrun : (e.run db).1 = .ok answer) :
    ∃ s, answer = .spool s ∧ s.weight = new.weight ∧ (∀ r ∈ db.tables.spools, r.id ≠ s.id) ∧
      (e.after db).tables = { db.tables with spools := db.tables.spools ++ [s] } := by
  have hgives : Tx.Gives (e.operation.perform e.catalog e.now) db answer (e.after db) :=
    Prod.ext hrun rfl
  rw [hop] at hgives
  obtain ⟨s, hs, rfl⟩ := Tx.gives_map.mp hgives
  simp only [Workflow.createSpool, Tx.gives_atomically, Tx.gives_bind, Tx.gives_check,
    refuseIfAny_eq_ok, Store.gives_insertSpool, Scalar.stored?_eq_some] at hs
  obtain ⟨_, _, ⟨-, rfl⟩, -, ⟨weight, price, ⟨-, hweight⟩, -, -, -, hrow⟩, hid, hdb⟩ := hs
  refine ⟨s, rfl, ?_, ?_, congrArg Database.tables hdb⟩
  · rw [hrow]
    exact hweight
  · intro r hr
    rw [hrow]
    exact hid r hr

/-- Only the registration of a spool counts as one. -/
theorem Moment.registration?_eq_none {m : Moment α}
    (h : m.event.operation.isRegistering = false ∨ ∃ why, m.outcome = .error why) :
    m.registration? = none := by
  unfold registration?
  split
  · rename_i new s hop hrun
    rcases h with h | ⟨why, h⟩
    · rw [hop] at h
      exact nomatch h
    · rw [hrun] at h
      exact nomatch h
  · rfl

theorem registrations_concat {past : List (Moment α)} {m : Moment α}
    (h : m.registration? = none) : registrations (past ++ [m]) = registrations past := by
  rw [registrations, List.filterMap_append, List.filterMap_cons_none h, List.filterMap_nil,
    List.append_nil]
  rfl

/-- A spool that is not there has no rows. -/
theorem Tables.Consistent.ledgerOf_eq_nil {t : Tables α} (h : t.Consistent) {spool : Uuid}
    (hspool : spool ∉ t.spools.map Spool.id) : t.ledgerOf spool = [] := by
  refine List.filter_eq_nil_iff.mpr fun d hd hd' => hspool ?_
  rw [← of_decide_eq_true hd']
  exact h.deductionSpools d hd

/-- The spools and their ledgers, one by one from the first registration on. -/
def Chained (past : List (Moment α)) (db : Database α) : Prop :=
  List.Forall₂ (fun r s => s.id = r.1 ∧ Ledger.Chain r.2 (db.tables.ledgerOf s.id) s.weight)
    (registrations past) db.tables.spools

/-- Tables with the same spools and journal keep the chains, and nothing is booked. -/
theorem Chained.of_tables_eq {past : List (Moment α)} {e : Event α} {db : Database α}
    (h : Chained past db) (hnone : (⟨e, db⟩ : Moment α).registration? = none)
    (hsame : (e.after db).tables = db.tables) :
    Chained (past ++ [⟨e, db⟩]) (e.after db) ∧
      ∀ s ∈ db.tables.spools, (⟨e, db⟩ : Moment α).Books s := by
  constructor
  · rw [Chained, registrations_concat hnone, hsame]
    exact h
  · intro s hs
    refine ⟨s, ?_, rfl, [], ?_, rfl, fun _ => rfl⟩
    · show s ∈ (e.after db).tables.spools
      rw [hsame]
      exact hs
    · show (e.after db).tables.ledgerOf s.id = _
      rw [hsame, List.append_nil]

/-- A registration begins a chain without rows. -/
theorem Chained.of_registration {past : List (Moment α)} {e : Event α} {db : Database α}
    (hsound : db.Sound) (h : Chained past db) {new : NewSpool α} {answer : Answer α}
    (hop : e.operation = .createSpool new) (hrun : (e.run db).1 = .ok answer) :
    Chained (past ++ [⟨e, db⟩]) (e.after db) ∧
      ∀ s ∈ db.tables.spools, (⟨e, db⟩ : Moment α).Books s := by
  obtain ⟨s, rfl, hweight, hnew, htables⟩ := registers hop hrun
  have hsome : (⟨e, db⟩ : Moment α).registration? = some (s.id, new.weight) := by
    simp only [Moment.registration?, Moment.outcome, hop, hrun]
  have hledgers : ∀ id, (e.after db).tables.ledgerOf id = db.tables.ledgerOf id := by
    intro id
    rw [htables]
    rfl
  constructor
  · rw [Chained, registrations, List.filterMap_append, List.filterMap_cons_some hsome]
    simp only [hledgers]
    rw [htables]
    refine List.rel_append h (List.Forall₂.cons ⟨rfl, ?_⟩ List.Forall₂.nil)
    have hempty := hsound.consistent.ledgerOf_eq_nil fun hmem => by
      obtain ⟨r, hr, hid⟩ := List.mem_map.mp hmem
      exact hnew r hr hid
    rw [hempty]
    exact hweight
  · intro r hr
    refine ⟨r, ?_, rfl, [], ?_, rfl, fun _ => rfl⟩
    · show r ∈ (e.after db).tables.spools
      rw [htables]
      exact List.mem_append_left _ hr
    · exact (hledgers r.id).trans (List.append_nil _).symm

/-- Rows that are added to the journal go on with the chains. -/
theorem Chained.of_ledger {past : List (Moment α)} {e : Event α} {db : Database α}
    (h : Chained past db) (hnone : (⟨e, db⟩ : Moment α).registration? = none)
    {rows : List (Deduction α)}
    (hrows : (e.after db).tables.deductions = db.tables.deductions ++ rows)
    (hspools : (e.after db).tables.spools = db.tables.spools.map (Ledger.reweighed e.now rows))
    (hchain : ∀ s ∈ db.tables.spools, Ledger.Chain s.weight (rows.filter fun d => d.spool = s.id)
      (Ledger.reweighed e.now rows s).weight) :
    Chained (past ++ [⟨e, db⟩]) (e.after db) ∧
      ∀ s ∈ db.tables.spools, (⟨e, db⟩ : Moment α).Books s := by
  have hledgers : ∀ id, (e.after db).tables.ledgerOf id =
      db.tables.ledgerOf id ++ rows.filter fun d => d.spool = id := by
    intro id
    rw [Tables.ledgerOf, hrows, List.filter_append]
    rfl
  constructor
  · rw [Chained, registrations_concat hnone, hspools, List.forall₂_map_right_iff]
    refine forall₂_imp_of_mem h fun r s hs hr => ?_
    rw [Ledger.reweighed_id, hledgers]
    refine ⟨hr.1, ?_⟩
    exact hr.2.append (hchain s hs)
  · intro s hs
    refine ⟨Ledger.reweighed e.now rows s, ?_, Ledger.reweighed_id rows s, _, hledgers s.id,
      hchain s hs, fun hnil => ?_⟩
    · show _ ∈ (e.after db).tables.spools
      rw [hspools]
      exact List.mem_map_of_mem hs
    · have hfind : rows.find? (fun d => d.spool = s.id) = none :=
        List.find?_eq_none.mpr (List.filter_eq_nil_iff.mp hnil)
      rw [Ledger.reweighed, hfind]

/-- An event keeps the chains, and books what it does to them. -/
theorem chained_after [LawfulScalar α] {past : List (Moment α)} {e : Event α} {db : Database α}
    (hsound : db.Sound) (h : Chained past db) :
    Chained (past ++ [⟨e, db⟩]) (e.after db) ∧
      ∀ s ∈ db.tables.spools, (⟨e, db⟩ : Moment α).Books s := by
  rcases e.step_or_refused hsound with ⟨answer, hrun, hstep⟩ | ⟨why, hrun, hsame⟩
  · cases hop : e.operation.isRegistering with
    | true =>
      obtain ⟨new, hnew⟩ : ∃ new, e.operation = .createSpool new := by
        unfold Operation.isRegistering at hop
        split at hop
        · exact ⟨_, by assumption⟩
        · exact nomatch hop
      exact h.of_registration hsound hnew hrun
    | false =>
      obtain ⟨rows, hrows, hspools, hchain⟩ := hstep.ledger hsound.consistent hop
      exact h.of_ledger (Moment.registration?_eq_none (Or.inl hop)) hrows hspools hchain
  · exact h.of_tables_eq (Moment.registration?_eq_none (Or.inr ⟨why, hrun⟩)) hsame

/-- The books balance after every history. -/
theorem balanced_history [LawfulScalar α] (start : Sequences) (events : List (Event α)) :
    Ledger.Balanced ((Database.fresh start).history events)
      ((Database.fresh start).afterAll events) := by
  have hfresh : (Database.fresh start : Database α).Sound := .fresh start
  have hsound := Database.sound_afterAll hfresh events
  obtain ⟨hchained, hbooked⟩ := Database.history_induction
    (motive := fun past db => Chained past db ∧
      ∀ m ∈ past, ∀ s ∈ m.before.tables.spools, m.Books s)
    hfresh ⟨List.Forall₂.nil, by simp⟩
    (fun past e db hdb ⟨hchained, hbooked⟩ => by
      obtain ⟨hnext, hbooks⟩ := chained_after hdb hchained
      refine ⟨hnext, fun m hm => ?_⟩
      rcases List.mem_append.mp hm with hm | hm
      · exact hbooked m hm
      · obtain rfl := List.mem_singleton.mp hm
        exact hbooks) events
  have hregistered := map_eq_of_forall₂ (fun r s h => h.1) hchained
  have hdistinct := hregistered ▸ hsound.consistent.spoolIds
  refine ⟨hregistered, hdistinct, hsound.ordered, ?_, ?_, hbooked⟩
  · intro r hr s hs hid
    obtain ⟨q, hq, hqs, hchain⟩ := exists_of_forall₂ hchained hs
    obtain rfl : q = r := eq_of_key_eq hdistinct hq hr (hqs.symm.trans hid)
    exact hchain
  · intro s hs
    obtain ⟨hnumber, hbelow⟩ := hsound.consistent.weights s hs
    exact ⟨hnumber, by simpa [isNotNegative] using hbelow⟩

/-- Whatever operations are performed, the journal and the spools agree: the rows of a spool lead
from the weight it was registered with to the weight it has, and no event changes the one without
the other.  In exact arithmetic, where no amount is too small to count, the weight a spool was
registered with is what is left of it and what was journaled, and an event that adds rows for a
spool lowers its weight. -/
theorem spools_balance :
    (∀ (start : Sequences) (events : List (Event Float)),
      Ledger.Balanced ((Database.fresh start).history events)
        ((Database.fresh start).afterAll events)) ∧
    ∀ (start : Sequences) (events : List (Event Rat)),
      let past := (Database.fresh start).history events
      let db := (Database.fresh start).afterAll events
      Ledger.Balanced past db ∧
        (∀ r ∈ registrations past, ∀ s ∈ db.tables.spools, s.id = r.1 →
          r.2 = s.weight + ((db.tables.ledgerOf s.id).map fun d => d.grams).sum ∧
            0 ≤ s.weight) ∧
        ∀ m ∈ past, ∀ s ∈ m.before.tables.spools, ∃ s' ∈ m.after.tables.spools, s'.id = s.id ∧
          (m.after.tables.ledgerOf s.id = m.before.tables.ledgerOf s.id ∧ s' = s ∨
            m.after.tables.ledgerOf s.id ≠ m.before.tables.ledgerOf s.id ∧
              s'.weight < s.weight) := by
  refine ⟨balanced_history, fun start events => ?_⟩
  have h := balanced_history start events
  refine ⟨h, fun r hr s hs hid => ⟨(h.chained r hr s hs hid).conserved, ?_⟩, fun m hm s hs => ?_⟩
  · exact Rat.not_lt.mp (of_decide_eq_false (h.notBelow s hs).notBelow)
  · obtain ⟨s', hs', hid, rows, hrows, hchain, hsame⟩ := h.booked m hm s hs
    refine ⟨s', hs', hid, ?_⟩
    by_cases hnil : rows = []
    · subst hnil
      exact Or.inl ⟨hrows.trans (List.append_nil _), hsame rfl⟩
    · refine Or.inr ⟨fun heq => hnil ?_, hchain.lowers hnil⟩
      rw [hrows] at heq
      exact List.append_right_eq_self.mp heq

end PrintFarm
