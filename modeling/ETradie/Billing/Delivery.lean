import ETradie.Kernel.Runs
import ETradie.Kernel.Register
import ETradie.Billing.Subscriptions

namespace ETradie.Billing

open Kernel List NormalizedEvent SubscriptionEvent Keyed

structure Writes where
  row : Option Subscription
  audit : Option SubscriptionEvent
deriving DecidableEq

inductive TxStage where
  | marked
  | waiting (prev : Option Subscription)
  | written (w : Writes)
deriving DecidableEq

structure Tx where
  id : Nat
  event : NormalizedEvent
  stage : TxStage
deriving DecidableEq

def Tx.wrote (tx : Tx) : Bool :=
  match tx.stage with
  | .written _ => true
  | _ => false

structure Schedule where
  db : Db
  txs : Keyed Tx.id := Keyed.empty
  log : List NormalizedEvent := []

inductive Act where
  | mark (i : Nat) (ev : NormalizedEvent)
  | snapshot (i : Nat)
  | write (i : Nat)
  | commit (i : Nat)
  | rollback (i : Nat)
deriving DecidableEq

def reported (prev : Option Subscription) : Upserted where
  applied := true
  previousTier := (prev.map Subscription.tier).getD ""
  previousStatus := prev.map Subscription.status
  previousPeriodEnd := prev.bind Subscription.currentPeriodEnd

def NormalizedEvent.writes (ev : NormalizedEvent) (prev : Option Subscription)
    (t : SubscriptionTable) : Writes :=
  if ev.current t then
    { row := some (ev.written t), audit := some (ev.auditRow (reported prev)) }
  else { row := none, audit := none }

def Writes.install (w : Writes) (ev : NormalizedEvent) (db : Db) : Db where
  subscriptions :=
    match w.row with
    | some row => db.subscriptions.put row
    | none => db.subscriptions
  processed := db.processed.put ev.mark
  audit := db.audit ++ w.audit.toList

namespace Schedule

def step (events : List NormalizedEvent) (s : Schedule) : Act → Option Schedule
  | .mark i ev =>
    if ev ∈ events ∧ (s.txs.get i).isNone = true ∧
        s.txs.rows.all (·.event.mark.pair ≠ ev.mark.pair) = true then
      -- a processed event is acknowledged without further statements
      if ev.fresh s.db then some { s with txs := s.txs.put ⟨i, ev, .marked⟩ } else some s
    else none
  | .snapshot i =>
    match s.txs.get i with
    | some ⟨_, ev, .marked⟩ =>
      some { s with txs := s.txs.put ⟨i, ev, .waiting (s.db.subscriptions.get ev.userId)⟩ }
    | _ => none
  | .write i =>
    match s.txs.get i with
    | some ⟨_, ev, .waiting prev⟩ =>
      if s.txs.rows.all (fun tx => !tx.wrote || tx.event.userId ≠ ev.userId) then
        some { s with txs := s.txs.put ⟨i, ev, .written (ev.writes prev s.db.subscriptions)⟩ }
      else none
    | _ => none
  | .commit i =>
    match s.txs.get i with
    | some ⟨_, ev, .written w⟩ =>
      some { db := w.install ev s.db, txs := s.txs.delete i, log := s.log ++ [ev] }
    | _ => none
  | .rollback i =>
    match s.txs.get i with
    | some _ => some { s with txs := s.txs.delete i }
    | none => none

end Schedule

variable {db : Db}

section Serial

variable (ev : NormalizedEvent)

def serial (db : Db) (log : List NormalizedEvent) : Db := log.foldl (fun db e => e.committed db) db

def SubscriptionEvent.forget (a : SubscriptionEvent) : SubscriptionEvent :=
  { a with previousTier := none, previousStatus := none }

structure Agree (db db' : Db) : Prop where
  subscriptions : db.subscriptions = db'.subscriptions
  processed : db.processed = db'.processed
  audit : db.audit.map SubscriptionEvent.forget = db'.audit.map SubscriptionEvent.forget

theorem Agree.trans {db₁ db₂ db₃ : Db} (h : Agree db₁ db₂) (h' : Agree db₂ db₃) : Agree db₁ db₃ :=
  ⟨h.1.trans h'.1, h.2.trans h'.2, h.3.trans h'.3⟩

theorem agree_install (prev : Option Subscription) (db : Db) :
    Agree ((ev.writes prev db.subscriptions).install ev db) (ev.committed db) := by
  unfold writes Writes.install committed
  cases ev.current db.subscriptions with
  | false => exact ⟨rfl, rfl, by simp⟩
  | true => exact ⟨rfl, rfl, by simp [forget, auditRow]⟩

theorem Agree.committed {db' : Db} (h : Agree db db') :
    Agree (ev.committed db) (ev.committed db') := by
  obtain ⟨hsubs, hproc, haud⟩ := h
  unfold NormalizedEvent.committed
  refine ⟨?_, ?_, ?_⟩
  · simp only [hsubs]
  · simp only [hproc]
  · simp only [hsubs]
    split
    · rw [map_append, map_append, haud]
    · exact haud

theorem serial_snoc (db : Db) (log : List NormalizedEvent) :
    serial db (log ++ [ev]) = ev.committed (serial db log) := by
  simp [serial]

theorem fresh_install (w : Writes) (e : NormalizedEvent) (db : Db) :
    e.fresh (w.install ev db) = (e.fresh db && (ev.mark.pair ≠ e.mark.pair : Bool)) := by
  simp only [fresh, Writes.install, get_put]
  by_cases h : ev.mark.pair = e.mark.pair
  · simp [h]
  · simp [h]

end Serial

variable {events : List NormalizedEvent} {u : String} {start : Db} {s : Schedule}
variable {ev : NormalizedEvent}

namespace Schedule

variable {t : Schedule}
variable {tx : Tx} {i : Nat}

structure Inv (events : List NormalizedEvent) (start : Db) (s : Schedule) : Prop where
  serial : Agree s.db (serial start s.log)
  grown : ∃ new, s.db.audit = start.audit ++ new
  known : ∀ e ∈ s.log, e ∈ events ∧ e.fresh s.db = false
  distinct : (s.log.map (·.mark.pair)).Nodup
  opened : ∀ tx ∈ s.txs.rows, tx.event ∈ events ∧ tx.event.fresh s.db = true
  marks : ∀ tx ∈ s.txs.rows, ∀ tx' ∈ s.txs.rows, tx.event.mark.pair = tx'.event.mark.pair → tx = tx'
  writer : ∀ tx ∈ s.txs.rows, ∀ tx' ∈ s.txs.rows, tx.wrote = true → tx'.wrote = true → tx = tx'
  holds : ∀ tx ∈ s.txs.rows, ∀ w, tx.stage = .written w →
    ∃ prev, w = tx.event.writes prev s.db.subscriptions

theorem inv_start (events : List NormalizedEvent) (start : Db) :
    Inv events start { db := start } where
  serial := ⟨rfl, rfl, rfl⟩
  grown := ⟨[], (append_nil _).symm⟩
  known := fun e he => by cases he
  distinct := nodup_nil
  opened := fun tx htx => by cases htx
  marks := fun tx htx => by cases htx
  writer := fun tx htx => by cases htx
  holds := fun tx htx => by cases htx

theorem wrote_iff (tx : Tx) : tx.wrote ↔ ∃ w, tx.stage = .written w := by
  unfold Tx.wrote
  cases tx.stage <;> simp

theorem Inv.mark (h : Inv events start s) (hev : ev ∈ events) (hfr : ev.fresh s.db)
    (hlk : ∀ tx ∈ s.txs.rows, tx.event.mark.pair ≠ ev.mark.pair) :
    Inv events start { s with txs := s.txs.put ⟨i, ev, .marked⟩ } :=
  { h with
    opened := forall_mem_put ⟨hev, hfr⟩ h.opened
    marks := forall_pair_put (fun _ => rfl)
      (fun tx htx _ hpa => absurd hpa.symm (hlk tx htx))
      (fun tx htx _ hpa => absurd hpa (hlk tx htx)) h.marks
    writer := forall_pair_put (fun _ _ => rfl) (fun _ _ _ hw => by cases hw)
      (fun _ _ _ _ hw => by cases hw) h.writer
    holds := forall_mem_put (fun _ hw => by cases hw) h.holds }

theorem Inv.restage (h : Inv events start s) (htx : tx ∈ s.txs.rows) {stage : TxStage}
    (hsta : ∀ w, stage = .written w →
      (∀ tx' ∈ s.txs.rows, tx'.wrote = false) ∧
        ∃ prev, w = tx.event.writes prev s.db.subscriptions) :
    Inv events start { s with txs := s.txs.put ⟨tx.id, tx.event, stage⟩ } := by
  have hfe : ∀ tx' ∈ s.txs.rows, Tx.wrote ⟨tx.id, tx.event, stage⟩ →
      ¬ tx'.wrote := by
    intro tx' htx' hwro
    obtain ⟨w, hw⟩ := (wrote_iff _).mp hwro
    exact Bool.eq_false_iff.mp ((hsta w hw).1 tx' htx')
  exact
    { h with
      opened := forall_mem_put (h.opened tx htx) h.opened
      marks := forall_pair_put (fun _ => rfl)
        (fun tx' htx' hid hpa => absurd (congrArg Tx.id (h.marks tx htx tx' htx' hpa)).symm hid)
        (fun tx' htx' hid hpa => absurd (congrArg Tx.id (h.marks tx' htx' tx htx hpa)) hid)
        h.marks
      writer := forall_pair_put (fun _ _ => rfl)
        (fun tx' htx' _ hw hw' => absurd hw' (hfe tx' htx' hw))
        (fun tx' htx' _ hw' hw => absurd hw' (hfe tx' htx' hw)) h.writer
      holds := forall_mem_put (fun w hw => (hsta w hw).2) h.holds }

theorem Inv.rollback (h : Inv events start s) (i : Nat) :
    Inv events start { s with txs := s.txs.delete i } := by
  have ho : ∀ tx ∈ (s.txs.delete i).rows, tx ∈ s.txs.rows := fun tx htx => (mem_delete.mp htx).1
  exact
    { h with
      opened := fun tx htx => h.opened tx (ho tx htx)
      marks := fun tx htx tx' htx' => h.marks tx (ho tx htx) tx' (ho tx' htx')
      writer := fun tx htx tx' htx' => h.writer tx (ho tx htx) tx' (ho tx' htx')
      holds := fun tx htx => h.holds tx (ho tx htx) }

theorem Inv.commit (h : Inv events start s) (htx : tx ∈ s.txs.rows) {w : Writes}
    (hw : tx.stage = .written w) :
    Inv events start
      { db := w.install tx.event s.db, txs := s.txs.delete tx.id
        log := s.log ++ [tx.event] } := by
  obtain ⟨prev, rfl⟩ := h.holds tx htx w hw
  obtain ⟨hev, hfr⟩ := h.opened tx htx
  have hoth : ∀ tx' ∈ (s.txs.delete tx.id).rows, tx' ∈ s.txs.rows ∧ tx' ≠ tx := by
    intro tx' htx'
    obtain ⟨ho, hid⟩ := mem_delete.mp htx'
    exact ⟨ho, fun heq => hid (congrArg Tx.id heq)⟩
  refine
    { serial := ?_, grown := ?_, known := ?_, distinct := ?_, opened := ?_
      marks := fun tx₁ h₁ tx₂ h₂ => h.marks tx₁ (hoth tx₁ h₁).1 tx₂ (hoth tx₂ h₂).1
      writer := fun tx₁ h₁ tx₂ h₂ => h.writer tx₁ (hoth tx₁ h₁).1 tx₂ (hoth tx₂ h₂).1
      holds := ?_ }
  · rw [serial_snoc]
    exact (agree_install tx.event prev s.db).trans (h.serial.committed tx.event)
  · obtain ⟨new, hn⟩ := h.grown
    refine ⟨new ++ (tx.event.writes prev s.db.subscriptions).audit.toList, ?_⟩
    simp only [Writes.install, hn, append_assoc]
  · intro e he
    rw [fresh_install]
    rcases mem_append.mp he with ho | hn
    · exact ⟨(h.known e ho).1, by rw [(h.known e ho).2, Bool.false_and]⟩
    · rw [mem_singleton] at hn
      subst hn
      exact ⟨hev, by simp⟩
  · rw [map_append, map_singleton]
    refine nodup_append.mpr ⟨h.distinct, nodup_singleton _, ?_⟩
    intro p hp p' hp' heq
    rw [mem_singleton] at hp'
    obtain ⟨e, he, rfl⟩ := mem_map.mp hp
    have hstl := (h.known e he).2
    rw [fresh, heq, hp'] at hstl
    rw [fresh, hstl] at hfr
    cases hfr
  · intro tx' htx'
    obtain ⟨ho, hne⟩ := hoth tx' htx'
    refine ⟨(h.opened tx' ho).1, ?_⟩
    rw [fresh_install, (h.opened tx' ho).2, Bool.true_and]
    exact decide_eq_true (fun hpa => hne (h.marks tx htx tx' ho hpa).symm)
  · -- no other transaction has written
    intro tx' htx' w' hw'
    obtain ⟨ho, hne⟩ := hoth tx' htx'
    exact absurd
      (h.writer tx' ho tx htx ((wrote_iff tx').mpr ⟨w', hw'⟩) ((wrote_iff tx).mpr ⟨_, hw⟩)) hne

theorem inv_step (hu : ∀ e ∈ events, e.userId = u) (h : Inv events start s) {a : Act}
    (hst : step events s a = some t) : Inv events start t := by
  revert hst
  fun_cases step events s a
  -- the paths that end without a successor are closed here
  all_goals intro hst; cases hst
  · next hgo hfr =>
    refine h.mark hgo.1 hfr ?_
    intro tx htx
    simpa using all_eq_true.mp hgo.2.2 tx htx
  · exact h
  · next hg =>
    obtain ⟨hm, ⟨⟩⟩ := get_eq_some_iff.mp hg
    exact h.restage hm (fun w hw => by cases hw)
  · next prev hg hlk =>
    obtain ⟨hm, ⟨⟩⟩ := get_eq_some_iff.mp hg
    refine h.restage hm ?_
    rintro _ ⟨⟩
    refine ⟨?_, prev, rfl⟩
    -- all transactions are of one user
    intro tx' htx'
    have hfe := all_eq_true.mp hlk tx' htx'
    rw [hu _ (h.opened tx' htx').1, hu _ (h.opened _ hm).1] at hfe
    simpa using hfe
  · next hg =>
    obtain ⟨hm, ⟨⟩⟩ := get_eq_some_iff.mp hg
    exact h.commit hm rfl
  · exact h.rollback _

end Schedule

variable {e : NormalizedEvent}

section Sequence

variable {log : List NormalizedEvent}

def NormalizedEvent.stamp (ev : NormalizedEvent) : Int := stored ev.eventTimestamp

def appliedEvents (u : String) (db : Db) (log : List NormalizedEvent) : List NormalizedEvent :=
  accepted NormalizedEvent.stamp ((db.subscriptions.get u).map Subscription.eventTimestamp) log

theorem current_eq (h : ev.userId = u) (t : SubscriptionTable) :
    ev.current t =
      ((t.get u).map Subscription.eventTimestamp).all (fun held => held ≤ ev.stamp) := by
  unfold current stamp
  rw [h, Option.all_map]

theorem appliedEvents_cons_taken (h : ev.userId = u) (hcur : ev.current db.subscriptions) :
    appliedEvents u db (ev :: log) = ev :: appliedEvents u (ev.committed db) log := by
  have hg : (ev.committed db).subscriptions.get u = some (ev.written db.subscriptions) := by
    rw [committed_get, if_pos ⟨hcur, h⟩]
  unfold appliedEvents
  rw [current_eq h] at hcur
  rw [accepted_cons_taken hcur, hg]
  rfl

theorem appliedEvents_cons_refused (h : ev.userId = u)
    (hcur : ev.current db.subscriptions = false) :
    appliedEvents u db (ev :: log) = appliedEvents u (ev.committed db) log := by
  have hg : (ev.committed db).subscriptions.get u = db.subscriptions.get u := by
    rw [committed_get, if_neg (fun hgo => absurd (hcur ▸ hgo.1) Bool.false_ne_true)]
  unfold appliedEvents
  rw [current_eq h] at hcur
  rw [accepted_cons_refused hcur, hg]

theorem serial_row (hu : ∀ e ∈ log, e.userId = u) :
    (∀ e, (appliedEvents u db log).getLast? = some e →
        ∃ card, (serial db log).subscriptions.get u = some (e.row.column (e.card.or card))) ∧
      ((appliedEvents u db log).getLast? = none →
        (serial db log).subscriptions.get u = db.subscriptions.get u) := by
  induction log generalizing db with
  | nil => exact ⟨fun e he => (by cases he), fun _ => rfl⟩
  | cons x xs ih =>
    have hx : x.userId = u := hu x mem_cons_self
    have hrs := @ih (x.committed db) (fun e he => hu e (mem_cons_of_mem x he))
    cases hcur : x.current db.subscriptions with
    | true =>
      rw [appliedEvents_cons_taken hx hcur, getLast?_cons]
      refine ⟨?_, fun hno => by cases hno⟩
      intro e he
      cases hl : (appliedEvents u (x.committed db) xs).getLast? with
      | none =>
        rw [hl, Option.getD_none] at he
        cases he
        refine ⟨(db.subscriptions.get x.userId).bind Subscription.card, ?_⟩
        exact (hrs.2 hl).trans (by rw [committed_get, if_pos ⟨hcur, hx⟩]; rfl)
      | some y =>
        rw [hl, Option.getD_some] at he
        cases he
        exact hrs.1 _ hl
    | false =>
      rw [appliedEvents_cons_refused hx hcur]
      have hg : (x.committed db).subscriptions.get u = db.subscriptions.get u := by
        rw [committed_get, if_neg (fun hgo => absurd (hcur ▸ hgo.1) Bool.false_ne_true)]
      exact ⟨hrs.1, fun hno => (hrs.2 hno).trans hg⟩

theorem serial_audit (hu : ∀ e ∈ log, e.userId = u) :
    (serial db log).audit.map forget =
      db.audit.map forget ++
        (appliedEvents u db log).map (fun e => (e.auditRow (reported none)).forget) := by
  induction log generalizing db with
  | nil => simp [serial, appliedEvents, accepted]
  | cons x xs ih =>
    have hx : x.userId = u := hu x mem_cons_self
    have hrs := @ih (x.committed db) (fun e he => hu e (mem_cons_of_mem x he))
    have hser : serial db (x :: xs) = serial (x.committed db) xs := rfl
    rw [hser, hrs]
    cases hcur : x.current db.subscriptions with
    | true =>
      rw [appliedEvents_cons_taken hx hcur]
      simp [committed, hcur, forget, auditRow]
    | false =>
      rw [appliedEvents_cons_refused hx hcur]
      simp [committed, hcur]

theorem serial_processed_other {pair : String × String}
    (h : pair ∉ log.map (·.mark.pair)) :
    (serial db log).processed.get pair = db.processed.get pair := by
  induction log generalizing db with
  | nil => rfl
  | cons x xs ih =>
    rw [map_cons, mem_cons, not_or] at h
    have hser : serial db (x :: xs) = serial (x.committed db) xs := rfl
    rw [hser, ih h.2]
    exact get_put_ne _ (fun heq => h.1 heq.symm)

theorem serial_processed (hdis : (log.map (·.mark.pair)).Nodup)
    (he : e ∈ log) : (serial db log).processed.get e.mark.pair = some e.mark := by
  induction log generalizing db with
  | nil => cases he
  | cons x xs ih =>
    obtain ⟨hx, hxs⟩ := nodup_cons.mp hdis
    have hser : serial db (x :: xs) = serial (x.committed db) xs := rfl
    rw [hser]
    rcases mem_cons.mp he with rfl | hm
    · rw [serial_processed_other hx]
      exact get_put_self _ _
    · exact ih hxs hm

end Sequence

theorem mem_log_of_processed (hids : (events.map (·.mark.pair)).Nodup)
    (hn : ∀ e ∈ events, e.fresh start) (h : Schedule.Inv events start s) (he : e ∈ events) (hdo : e.fresh s.db = false) : e ∈ s.log := by
  by_contra hnot
  have hpa : e.mark.pair ∉ s.log.map (·.mark.pair) := by
    intro hm
    obtain ⟨e', he', heq⟩ := mem_map.mp hm
    have hsm : e' = e := inj_on_of_nodup_map hids (h.known e' he').1 he heq
    exact hnot (hsm ▸ he')
  have hfr := hn e he
  rw [fresh, h.serial.processed, serial_processed_other hpa] at hdo
  rw [fresh, hdo] at hfr
  cases hfr

theorem deliveries_converge (huser : ∀ e ∈ events, e.userId = u)
    (hids : (events.map (fun e => e.mark.pair)).Nodup)
    (htimes : (events.map NormalizedEvent.stamp).Nodup) (hnew : ∀ e ∈ events, e.fresh start = true)
    {acts : List Act} (hrun : run (Schedule.step events) { db := start } acts = some s)
    (hall : ∀ e ∈ events, e.fresh s.db = false) {last : NormalizedEvent} (hlast : last ∈ events)
    (hgreatest : ∀ e ∈ events, e.eventTimestamp ≤ last.eventTimestamp)
    (hold : ∀ r, start.subscriptions.get u = some r → r.eventTimestamp ≤ last.stamp) :
    (∃ card, s.db.subscriptions.get u = some (last.row.column (last.card.or card))) ∧
      (∀ e ∈ events, s.db.processed.get e.mark.pair = some e.mark ∧
        (s.db.processed.rows.map ProcessedEvent.pair).count e.mark.pair = 1) ∧
      ∃ rows, s.db.audit = start.audit ++ rows ∧
        (rows.map (fun a => (a.provider, a.eventId))).Nodup ∧
        (∀ a ∈ rows, ∃ e ∈ events, a.forget = (e.auditRow (reported none)).forget) ∧
        rows.Pairwise (fun a b => a.eventTimestamp < b.eventTimestamp) := by
  have hinv : Schedule.Inv events start s :=
    (throughout_invariant _ (fun s a t hs ht => Schedule.inv_step huser hs ht)
      (Schedule.inv_start events start) acts).final _ hrun
  have hlog : ∀ e ∈ events, e ∈ s.log :=
    fun e he => mem_log_of_processed hids hnew hinv he (hall e he)
  have hkn : ∀ e ∈ s.log, e ∈ events := fun e he => (hinv.known e he).1
  have hlgs : ∀ e ∈ s.log, e.userId = u := fun e he => huser e (hkn e he)
  have hstm : ∀ e ∈ s.log, e = last ∨ e.stamp < last.stamp := by
    intro e he
    by_cases heq : e = last
    · exact .inl heq
    · refine .inr (lt_of_le_of_ne (stored_mono (hgreatest e (hkn e he))) ?_)
      intro hsm
      exact heq (eq_of_key_eq htimes (hkn e he) hlast hsm)
  have hlgt : (s.log.map stamp).Nodup := by
    refine List.Nodup.map_on ?_ hinv.distinct.of_map
    intro e he e' he' hsm
    exact eq_of_key_eq htimes (hkn e he) (hkn e' he') hsm
  refine ⟨?_, ?_, ?_⟩
  · have happ : (appliedEvents u start s.log).getLast? = some last := by
      refine accepted_getLast? (hlog last hlast) hstm ?_
      intro held hhd
      obtain ⟨r, hr, rfl⟩ := Option.map_eq_some_iff.mp hhd
      exact hold r hr
    rw [hinv.serial.subscriptions]
    exact (serial_row hlgs).1 last happ
  · intro e he
    have hg : s.db.processed.get e.mark.pair = some e.mark := by
      rw [hinv.serial.processed]
      exact serial_processed hinv.distinct (hlog e he)
    refine ⟨hg, count_eq_one_of_mem s.db.processed.unique ?_⟩
    exact mem_map_of_mem (get_eq_some_iff.mp hg).1
  · obtain ⟨rows, hrw⟩ := hinv.grown
    have hfor : rows.map forget =
        (appliedEvents u start s.log).map (fun e => (e.auditRow (reported none)).forget) := by
      have haud := hinv.serial.audit
      rw [serial_audit hlgs, hrw, map_append] at haud
      exact append_cancel_left haud
    have hsub : (appliedEvents u start s.log).Sublist s.log := accepted_sublist
    refine ⟨rows, hrw, ?_, ?_, ?_⟩
    · have hprs : rows.map (fun a => (a.provider, a.eventId)) =
          (appliedEvents u start s.log).map (fun e => e.mark.pair) := by
        have := congrArg (List.map (fun a => (a.provider, a.eventId))) hfor
        rw [map_map, map_map] at this
        exact this
      rw [hprs]
      exact hinv.distinct.sublist (hsub.map _)
    · intro a ha
      have hm : a.forget ∈ rows.map forget := mem_map_of_mem ha
      rw [hfor] at hm
      obtain ⟨e, he, heq⟩ := mem_map.mp hm
      exact ⟨e, hkn e (hsub.subset he), heq.symm⟩
    · have hsta : rows.map SubscriptionEvent.eventTimestamp =
          (appliedEvents u start s.log).map stamp := by
        have := congrArg (List.map SubscriptionEvent.eventTimestamp) hfor
        rw [map_map, map_map] at this
        exact this
      have hpai : (rows.map SubscriptionEvent.eventTimestamp).Pairwise (· < ·) := by
        rw [hsta]
        exact pairwise_map.mpr (accepted_strictly_ascending hlgt)
      exact pairwise_map.mp hpai

def sampleEvent (eventId : String) (tier : Tier) (eventTimestamp : Int) : NormalizedEvent where
  provider := Paddle.provider
  eventId := eventId
  eventName := "subscription_updated"
  eventTimestamp := eventTimestamp
  userId := "u1"
  providerCustomerId := "ctm_1"
  providerSubscriptionId := "sub_1"
  currentPeriodEnd := some 9000000
  tier := tier
  status := .active

def oneByOne (evs : List NormalizedEvent) : List Act :=
  evs.flatMap (fun ev => [.mark 0 ev, .snapshot 0, .write 0, .commit 0])

def upgrade : NormalizedEvent := sampleEvent "ntf_2" tierProManaged 2000999

def sameMicrosecond : NormalizedEvent := sampleEvent "ntf_1" tierProBYOK 2000001

theorem older_event_wins_within_microsecond :
    sameMicrosecond.eventTimestamp < upgrade.eventTimestamp ∧ upgrade.tier = tierProManaged ∧
      (run (Schedule.step [sameMicrosecond, upgrade]) { db := Db.empty }
        (oneByOne [upgrade, sameMicrosecond])).map
          (fun s => (s.log.map NormalizedEvent.eventId,
            (s.db.subscriptions.get "u1").map Subscription.tier)) =
        some (["ntf_2", "ntf_1"], some tierProBYOK) := by
  decide +kernel

def purchase : NormalizedEvent := sampleEvent "ntf_1" tierProBYOK 1000000

def overtaking : List Act :=
  [.mark 0 purchase, .mark 1 upgrade, .snapshot 1, .snapshot 0, .write 1, .rollback 0,
    .mark 2 purchase, .snapshot 2, .commit 1, .write 2, .commit 2, .mark 3 upgrade]

theorem overtaking_converges :
    ∃ s, run (Schedule.step [purchase, upgrade]) { db := Db.empty } overtaking = some s ∧
      ∃ card, s.db.subscriptions.get "u1" = some (upgrade.row.column (upgrade.card.or card)) := by
  have hso : (run (Schedule.step [purchase, upgrade]) { db := Db.empty } overtaking).map
      (fun s => [purchase, upgrade].all (fun e => !e.fresh s.db)) = some true := by
    decide +kernel
  obtain ⟨s, hs, hdo⟩ := Option.map_eq_some_iff.mp hso
  refine ⟨s, hs, (deliveries_converge ?_ ?_ ?_ ?_ hs ?_ ?_ ?_ ?_).1⟩
  · decide +kernel
  · decide +kernel
  · decide +kernel
  · decide +kernel
  · intro e he
    simpa using all_eq_true.mp hdo e he
  · decide +kernel
  · decide +kernel
  · intro r hr
    cases hr

end ETradie.Billing
