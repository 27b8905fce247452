import ETradie.Kernel.Runs
import ETradie.Management.Reconciler

namespace ETradie.Management

open Kernel List Function Registry State

structure TradeSetup where
  tp1Price : ℚ
  tp1Pct : Int
  tp2Price : ℚ
  tp2Pct : Int
  tp3Price : ℚ
  tp3Pct : Int
  (tradingStyle setupType : String)
deriving DecidableEq

theorem TradeSetup.with_target {a : TradeSetup} {target : ℚ} (h : target = a.tp1Price) :
    { a with tp1Price := target } = a := by
  subst h
  rfl

def Trade.setup (t : Trade) : TradeSetup := { t with }

def TradeRecord.setup (rec : TradeRecord) : TradeSetup := { rec with }

def RegisterFilledTradeRequest.setup (req : RegisterFilledTradeRequest) : TradeSetup := { req with }

structure Ticket where
  (userId number : String)
deriving DecidableEq

variable (k : Ticket)

namespace Ticket

def Holds (t : Trade) : Prop := t.brokerOrderId = k.number ∧ t.userId = k.userId

def Lists (rec : TradeRecord) : Prop := rec.brokerOrderId = k.number ∧ rec.userId = k.userId

instance (k : Ticket) (t : Trade) : Decidable (k.Holds t) := inferInstanceAs (Decidable (_ ∧ _))

instance (k : Ticket) (rec : TradeRecord) : Decidable (k.Lists rec) :=
  inferInstanceAs (Decidable (_ ∧ _))

abbrev Request : Type := {req : RegisterFilledTradeRequest // req.brokerOrderId = k.number}

abbrev Position : Type := {pos : PositionInfo // pos.ticket = k.number}

def Listed (s : State) : Prop := ∃ rec ∈ s.journal, k.Lists rec

structure Names (k : Ticket) (id : String) (setup : TradeSetup) (t : Trade) : Prop where
  holds : k.Holds t
  tradeId : t.tradeId = id
  setup : t.setup = setup

def Carries (setup : TradeSetup) (s : State) : Prop :=
  ∃ id t, s.manager.get? id = some t ∧ k.Holds t ∧ t.setup = setup

instance (k : Ticket) (s : State) : Decidable (k.Listed s) :=
  inferInstanceAs (Decidable (∃ rec ∈ s.journal, k.Lists rec))

instance (k : Ticket) (setup : TradeSetup) (s : State) : Decidable (k.Carries setup s) :=
  decidable_of_iff
    (∃ entry ∈ s.manager.index, ∃ t ∈ s.manager.get? entry.1, k.Holds t ∧ t.setup = setup) (by
      constructor
      · rintro ⟨entry, -, t, hget, hholds⟩
        exact ⟨entry.1, t, hget, hholds⟩
      · rintro ⟨id, t, hget, hholds⟩
        obtain ⟨entry, hentry, rfl⟩ := Registry.exists_entry_of_get? hget
        exact ⟨entry, hentry, t, hget, hholds⟩)

structure OneTrade (k : Ticket) (id : String) (setup : TradeSetup) (s : State) : Prop where
  rows : ∀ rec ∈ s.journal, k.Lists rec → rec.tradeId = id ∧ rec.setup = setup
  objects : ∀ p, k.Holds (s.manager.object p) → k.Names id setup (s.manager.object p) ∧ k.Listed s
  keys : ∀ key t, s.manager.get? key = some t → k.Holds t → key = id

end Ticket

inductive CallPhase (k : Ticket) where
  | idle
  | looked (req : k.Request)
  | inserted (req : k.Request) (tradeId : String)

inductive ReconcilerPhase (k : Ticket) where
  | idle
  | adopting (pos : k.Position) (known : Bool) (pointers : List Nat)
  | orphan (pos : k.Position)
  | importing (pos : k.Position)
  | building (trade : Trade)

structure TicketRace (k : Ticket) where
  state : State
  calls : Nat → CallPhase k := fun _ => .idle
  reconciler : ReconcilerPhase k := .idle
  answered : List k.Request := []

inductive RaceAction (k : Ticket) where
  | lookup (i : Nat) (claims : Claims) (req : k.Request) (queryFails : Bool)
  | insert (i : Nat) (draw : RegisterDraw)
  | register (i : Nat)
  | snapshot (pos : k.Position)
  | adopt (reads : SnapshotReads)
  | lookupOrphan (reads : SnapshotReads) (queryFails : Bool)
  | importOrphan (reads : SnapshotReads) (draw : RegisterDraw)
  | registerOrphan

variable (reads : SnapshotReads)

def resurrect (userId : String) (pos : PositionInfo) (rec : TradeRecord)
    (j : Journal) : Journal :=
  if rec.status = .closed then
    j.update (reads.writeOk rec.tradeId) userId rec.tradeId (fun rec =>
      { rec with
        status := .active, remainingLotSize := pos.volume, exitPrice := 0, grossPnL := 0
        outcome := none })
  else j

variable {k}

namespace TicketRace

def lookup (s : TicketRace k) (i : Nat) (req : k.Request) (queryFails : Bool) : TicketRace k :=
  match s.state.journal.getTradeByBrokerOrderId queryFails k.userId req.1.brokerOrderId with
  | some _ => { s with answered := req :: s.answered }
  | none => { s with calls := Function.update s.calls i (.looked req) }

def insert (s : TicketRace k) (i : Nat) (req : k.Request) (draw : RegisterDraw) : TicketRace k :=
  match s.state.journal.insertTrade draw.dbError (newTrade k.userId draw.tradeId req.1).record with
  | .error _ => { s with calls := Function.update s.calls i .idle }
  | .ok j =>
    { s with
      state := { s.state with journal := j }
      calls := Function.update s.calls i (.inserted req draw.tradeId) }

def register (s : TicketRace k) (i : Nat) (req : k.Request) (tradeId : String) : TicketRace k :=
  { s with
    state := s.state.registerTrade (newTrade k.userId tradeId req.1)
    calls := Function.update s.calls i .idle, answered := req :: s.answered }

def adopt (pos : k.Position) (p : Nat) (s : State) : State :=
  if reconciles k.userId (s.manager.object p) = true ∧ k.Holds (s.manager.object p) then
    adoptPosition reads k.userId pos.1 p s
  else s

def lookupOrphan (s : TicketRace k) (reads : SnapshotReads) (queryFails : Bool)
    (pos : k.Position) : TicketRace k :=
  match s.state.journal.getTradeByBrokerOrderId queryFails k.userId pos.1.ticket with
  | some rec =>
    { s with
      state := { s.state with journal := resurrect reads k.userId pos.1 rec s.state.journal }
      reconciler := .building (recoveredTrade k.userId pos.1 rec) }
  | none => { s with reconciler := .importing pos }

def importOrphan (s : TicketRace k) (reads : SnapshotReads) (draw : RegisterDraw)
    (pos : k.Position) : TicketRace k :=
  match s.state.journal.insertTrade draw.dbError
      (importedTrade reads k.userId draw.tradeId pos.1).record with
  | .error _ => { s with reconciler := .idle }
  | .ok j =>
    { s with
      state := { s.state with journal := j }
      reconciler := .building (importedTrade reads k.userId draw.tradeId pos.1) }

def step (s : TicketRace k) : RaceAction k → Option (TicketRace k)
  | .lookup i claims req queryFails =>
    match s.calls i, authorizeRegister (some claims) req.1 with
    | .idle, .ok userId => if userId = k.userId then some (s.lookup i req queryFails) else none
    | _, _ => none
  | .insert i draw =>
    match s.calls i with
    | .looked req => some (s.insert i req draw)
    | _ => none
  | .register i =>
    match s.calls i with
    | .inserted req tradeId => some (s.register i req tradeId)
    | _ => none
  | .snapshot pos =>
    match s.reconciler with
    | .idle =>
      some
        { s with
          reconciler := .adopting pos
            ((knownTickets k.userId s.state).contains pos.1.ticket)
            (s.state.manager.index.map Prod.snd) }
    | _ => none
  | .adopt reads =>
    match s.reconciler with
    | .adopting pos known (p :: pointers) =>
      some { s with state := adopt reads pos p s.state, reconciler := .adopting pos known pointers }
    | .adopting pos known [] => some { s with reconciler := if known then .idle else .orphan pos }
    | _ => none
  | .lookupOrphan reads queryFails =>
    match s.reconciler with
    | .orphan pos => some (s.lookupOrphan reads queryFails pos)
    | _ => none
  | .importOrphan reads draw =>
    match s.reconciler with
    | .importing pos => some (s.importOrphan reads draw pos)
    | _ => none
  | .registerOrphan =>
    match s.reconciler with
    | .building trade => some { s with state := s.state.registerTrade trade, reconciler := .idle }
    | _ => none

def OneEntry (s : TicketRace k) : Prop :=
  (∀ id t id' t', s.state.manager.get? id = some t → k.Holds t →
      s.state.manager.get? id' = some t' → k.Holds t' → id = id') ∧
    ∀ req ∈ s.answered, k.Carries req.1.setup s.state

def ShowsTarget (s : State) : ReconcilerPhase k → Prop
  | .adopting pos _ (p :: _) =>
    k.Holds (s.manager.object p) → pos.1.takeProfit = (s.manager.object p).tp1Price
  | _ => True

instance (s : State) : (phase : ReconcilerPhase k) → Decidable (ShowsTarget s phase)
  | .adopting _ _ (_ :: _) => inferInstanceAs (Decidable (_ → _))
  | .adopting _ _ [] => isTrue trivial
  | .idle => isTrue trivial
  | .orphan _ => isTrue trivial
  | .importing _ => isTrue trivial
  | .building _ => isTrue trivial

def Orderly (s : TicketRace k) : RaceAction k → Prop
  | .lookup _ _ req queryFails =>
    s.state.journal.getTradeByBrokerOrderId queryFails k.userId req.1.brokerOrderId ≠ none →
      k.Carries req.1.setup s.state
  | .insert _ draw => draw.dbError = none → ¬ k.Listed s.state
  | .importOrphan _ draw => draw.dbError = none → ¬ k.Listed s.state
  | .adopt _ => ShowsTarget s.state s.reconciler
  | _ => True

instance (s : TicketRace k) : (a : RaceAction k) → Decidable (s.Orderly a)
  | .lookup _ _ _ _ => inferInstanceAs (Decidable (_ → _))
  | .insert _ _ => inferInstanceAs (Decidable (_ → _))
  | .register _ => isTrue trivial
  | .snapshot _ => isTrue trivial
  | .adopt _ => inferInstanceAs (Decidable (ShowsTarget _ _))
  | .lookupOrphan _ _ => isTrue trivial
  | .importOrphan _ _ => inferInstanceAs (Decidable (_ → _))
  | .registerOrphan => isTrue trivial

end TicketRace

variable {id : String} {j : Journal} {f : TradeRecord → TradeRecord} {pos : PositionInfo}
variable {rec : TradeRecord} {t : Trade}

namespace Ticket

variable {setup : TradeSetup}

section Statements

variable {m : Registry String Trade}

theorem Listed.update (h : k.Listed ⟨m, j⟩) (writeOk : Bool) (userId tradeId : String) (hids : ∀ rec, (f rec).tradeId = rec.tradeId ∧
      (f rec).brokerOrderId = rec.brokerOrderId ∧ (f rec).userId = rec.userId) :
    k.Listed ⟨m, j.update writeOk userId tradeId f⟩ := by
  obtain ⟨rec, hrec, hlis⟩ := h
  unfold Journal.update
  split_ifs
  · exact ⟨rec, hrec, hlis⟩
  · refine ⟨_, mem_map_of_mem hrec, ?_⟩
    split_ifs with hr
    · obtain ⟨-, htkt, hu⟩ := hids rec
      exact ⟨htkt.trans hlis.1, hu.trans hlis.2⟩
    · exact hlis

theorem OneTrade.update (h : k.OneTrade id setup ⟨m, j⟩) (writeOk : Bool) (userId tradeId : String) (hids : ∀ rec, (f rec).tradeId = rec.tradeId ∧
      (f rec).brokerOrderId = rec.brokerOrderId ∧ (f rec).userId = rec.userId)
    (hstp : ∀ rec, rec.setup = setup → (f rec).setup = setup) :
    k.OneTrade id setup ⟨m, j.update writeOk userId tradeId f⟩ := by
  refine ⟨?_, fun p hp => ?_, h.keys⟩
  · unfold Journal.update
    split_ifs
    · exact h.rows
    · intro _ hrec' hlis
      obtain ⟨rec, hrec, rfl⟩ := mem_map.mp hrec'
      split_ifs at hlis ⊢ with hr
      · obtain ⟨hid, htkt, hu⟩ := hids rec
        have ho := h.rows rec hrec ⟨htkt.symm.trans hlis.1, hu.symm.trans hlis.2⟩
        exact ⟨hid.trans ho.1, hstp rec ho.2⟩
      · exact h.rows rec hrec hlis
  · obtain ⟨hnms, hlst⟩ := h.objects p hp
    exact ⟨hnms, hlst.update writeOk userId tradeId hids⟩

theorem OneTrade.journalAdoption (h : k.OneTrade id setup ⟨m, j⟩) (reads : SnapshotReads)
    (userId : String) (t : Trade) (htgt : pos.takeProfit = setup.tp1Price) :
    k.OneTrade id setup ⟨m, Management.journalAdoption reads userId pos t j⟩ := by
  have htar : ∀ rec : TradeRecord, rec.setup = setup →
      { rec.setup with tp1Price := pos.takeProfit } = setup := by
    intro rec hrec
    rw [hrec]
    exact TradeSetup.with_target htgt
  unfold Management.journalAdoption
  dsimp only
  split_ifs with hmvd hdri
  · refine OneTrade.update ?_ _ _ _ (fun rec => ⟨rfl, rfl, rfl⟩) htar
    exact h.update _ _ _ (fun rec => ⟨rfl, rfl, rfl⟩) (fun rec hrec => hrec)
  · exact h.update _ _ _ (fun rec => ⟨rfl, rfl, rfl⟩) htar
  · exact h.update _ _ _ (fun rec => ⟨rfl, rfl, rfl⟩) (fun rec hrec => hrec)
  · exact h

theorem OneTrade.resurrect (h : k.OneTrade id setup ⟨m, j⟩) (reads : SnapshotReads)
    (userId : String) (pos : PositionInfo) (rec : TradeRecord) :
    k.OneTrade id setup ⟨m, Management.resurrect reads userId pos rec j⟩ := by
  unfold Management.resurrect
  split_ifs
  · exact h.update _ _ _ (fun rec => ⟨rfl, rfl, rfl⟩) (fun rec hrec => hrec)
  · exact h

theorem OneTrade.insert (h : k.OneTrade id setup ⟨m, j⟩) (hn : ¬ k.Listed ⟨m, j⟩) (hlis : k.Lists rec) :
    k.OneTrade rec.tradeId rec.setup ⟨m, j ++ [rec]⟩ := by
  have hemp : ∀ p, ¬ k.Holds (m.object p) := fun p hp => hn (h.objects p hp).2
  refine ⟨?_, fun p hp => absurd hp (hemp p), ?_⟩
  · intro other hoth htkt
    rcases mem_append.mp hoth with ho | hl
    · exact absurd ⟨other, ho, htkt⟩ hn
    · obtain rfl := mem_singleton.mp hl
      exact ⟨rfl, rfl⟩
  · intro _ t hg hhld
    obtain ⟨p, rfl⟩ := exists_object_of_get? hg
    exact absurd hhld (hemp p)

end Statements

section Registrations

variable {s : State} {wanted : TradeSetup} {p : Nat} {f : Trade → Trade}

theorem OneTrade.names_of_get? (h : k.OneTrade id setup s) {key : String}
    (hg : s.manager.get? key = some t) (hhld : k.Holds t) :
    k.Names id setup t ∧ k.Listed s := by
  obtain ⟨p, rfl⟩ := exists_object_of_get? hg
  exact h.objects p hhld

theorem OneTrade.eq_of_carries (h : k.OneTrade id setup s) (hcar : k.Carries wanted s) :
    wanted = setup ∧ k.Listed s := by
  obtain ⟨key, t, hg, hhld, rfl⟩ := hcar
  obtain ⟨hnms, hlst⟩ := h.names_of_get? hg hhld
  exact ⟨hnms.setup, hlst⟩

theorem OneTrade.registerTrade (h : k.OneTrade id setup s) (ht : k.Names id setup t)
    (hlst : k.Listed s) : k.OneTrade id setup (s.registerTrade t) := by
  refine ⟨h.rows, ?_, ?_⟩
  · intro p hp
    refine ⟨?_, hlst⟩
    by_cases hnx : p = s.manager.next
    · have hobj : (s.registerTrade t).manager.object p = t := by
        rw [hnx]
        exact update_self _ _ _
      rw [hobj]
      exact ht
    · have hobj : (s.registerTrade t).manager.object p = s.manager.object p :=
        update_of_ne hnx _ _
      rw [hobj] at hp ⊢
      exact (h.objects p hp).1
  · intro key t' hg hhld
    by_cases hk : key = t.tradeId
    · exact hk.trans ht.tradeId
    · rw [State.registerTrade, Registry.get?_register_of_ne _ hk] at hg
      exact h.keys key t' hg hhld

theorem carries_registerTrade (ht : k.Names id setup t) : k.Carries setup (s.registerTrade t) :=
  ⟨t.tradeId, t, get?_register_self _ _ _, ht.holds, ht.setup⟩

theorem OneTrade.modify (h : k.OneTrade id setup s) (hhld : k.Holds (s.manager.object p))
    (hf : k.Names id setup (f (s.manager.object p))) :
    k.OneTrade id setup { s with manager := s.manager.modify p f } := by
  refine ⟨h.rows, ?_, ?_⟩
  · intro q hq
    refine ⟨?_, (h.objects p hhld).2⟩
    by_cases hqp : q = p
    · subst hqp
      rw [object_modify_self]
      exact hf
    · rw [object_modify_of_ne _ hqp] at hq ⊢
      exact (h.objects q hq).1
  · intro key _ hg hhld'
    rcases get?_modify s.manager p f key with ⟨-, hno⟩ | ⟨v, v', hv, hv', hcs⟩
    · rw [hno] at hg
      cases hg
    · rw [hv'] at hg
      cases hg
      rcases hcs with rfl | ⟨rfl, -⟩
      · exact h.keys key _ hv hhld'
      · exact h.keys key _ hv hhld

theorem OneTrade.carries_modify (h : k.OneTrade id setup s)
    (hf : k.Names id setup (f (s.manager.object p))) (hcar : k.Carries wanted s) :
    k.Carries wanted { s with manager := s.manager.modify p f } := by
  obtain ⟨rfl, -⟩ := h.eq_of_carries hcar
  obtain ⟨key, t, hg, hhld, hstp⟩ := hcar
  rcases get?_modify s.manager p f key with ⟨hno, -⟩ | ⟨v, v', hv, hv', hcs⟩
  · rw [hno] at hg
    cases hg
  · rw [hv] at hg
    cases hg
    rcases hcs with rfl | ⟨rfl, rfl⟩
    · exact ⟨key, _, hv', hhld, hstp⟩
    · exact ⟨key, _, hv', hf.holds, hf.setup⟩

end Registrations

theorem Names.adoptPosition (h : k.Names id setup t) (reads : SnapshotReads) (htgt : pos.takeProfit = t.tp1Price) :
    k.Names id setup (adoptBracket reads pos (adoptVolume pos t)) := by
  have hvol : k.Names id setup (adoptVolume pos t) ∧
      (adoptVolume pos t).tp1Price = t.tp1Price := by
    unfold adoptVolume
    split_ifs
    · exact ⟨⟨h.holds, h.tradeId, h.setup⟩, rfl⟩
    · exact ⟨h, rfl⟩
  obtain ⟨hnms, htp1⟩ := hvol
  unfold adoptBracket
  split_ifs
  · refine ⟨hnms.holds, hnms.tradeId, ?_⟩
    exact (TradeSetup.with_target (htgt.trans htp1.symm)).trans hnms.setup
  · exact ⟨hnms.holds, hnms.tradeId, hnms.setup⟩

end Ticket

namespace TicketRace

structure Settled (id : String) (setup : TradeSetup) (s : TicketRace k) : Prop where
  state : k.OneTrade id setup s.state
  inserted : ∀ i req tradeId, s.calls i = .inserted req tradeId →
    k.Names id setup (newTrade k.userId tradeId req.1) ∧ k.Listed s.state
  building : ∀ trade, s.reconciler = .building trade → k.Names id setup trade ∧ k.Listed s.state
  answered : ∀ req ∈ s.answered, k.Carries req.1.setup s.state

section Steps

variable {setup : TradeSetup} {s : TicketRace k}
variable {i : Nat} {req : k.Request} {tradeId : String}

theorem Settled.oneEntry (h : Settled id setup s) : s.OneEntry := by
  refine ⟨?_, h.answered⟩
  intro key t key' t' hg hhld hg' hhld'
  exact (h.state.keys key t hg hhld).trans (h.state.keys key' t' hg' hhld').symm

theorem inserted_of_update {calls : Nat → CallPhase k} {j : Nat} {phase : CallPhase k}
    (hph : phase ≠ .inserted req tradeId)
    (h : Function.update calls i phase j = .inserted req tradeId) :
    calls j = .inserted req tradeId := by
  by_cases hji : j = i
  · subst hji
    rw [update_self] at h
    exact absurd h hph
  · rwa [update_of_ne hji] at h

theorem Settled.lookup (h : Settled id setup s) (i : Nat) (req : k.Request) (queryFails : Bool)
    (hfnd : s.state.journal.getTradeByBrokerOrderId queryFails k.userId
      req.1.brokerOrderId ≠ none → k.Carries req.1.setup s.state) :
    Settled id setup (s.lookup i req queryFails) := by
  unfold TicketRace.lookup
  split
  · rename_i existing hexisting
    exact ⟨h.state, h.inserted, h.building,
      forall_mem_cons.mpr ⟨hfnd (by simp [hexisting]), h.answered⟩⟩
  · refine ⟨h.state, ?_, h.building, h.answered⟩
    intro j other tradeId hj
    exact h.inserted j other tradeId (inserted_of_update (by simp) hj)

theorem Settled.unlisted (h : Settled id setup s) (hn : ¬ k.Listed s.state) :
    (∀ i req tradeId, s.calls i ≠ .inserted req tradeId) ∧
      (∀ trade, s.reconciler ≠ .building trade) ∧ s.answered = [] := by
  refine ⟨?_, ?_, ?_⟩
  · intro i req tradeId hi
    exact hn (h.inserted i req tradeId hi).2
  · intro trade htrd
    exact hn (h.building trade htrd).2
  · refine eq_nil_iff_forall_not_mem.mpr ?_
    intro req hreq
    exact hn (h.state.eq_of_carries (h.answered req hreq)).2

theorem dbError_of_insertTrade {j' : Journal} {dbError : Option String}
    (h : j.insertTrade dbError rec = .ok j') : dbError = none := by
  cases dbError with
  | none => rfl
  | some e =>
    unfold Journal.insertTrade at h
    split_ifs at h

theorem Settled.insert (h : Settled id setup s) (i : Nat) (req : k.Request) (draw : RegisterDraw)
    (hn : draw.dbError = none → ¬ k.Listed s.state) :
    ∃ id setup, Settled id setup (s.insert i req draw) := by
  unfold TicketRace.insert
  split
  · refine ⟨id, setup, h.state, ?_, h.building, h.answered⟩
    intro j other tradeId hj
    exact h.inserted j other tradeId (inserted_of_update (by simp) hj)
  · rename_i j hj
    have hunl := hn (dbError_of_insertTrade hj)
    obtain ⟨hins, hbui, hans⟩ := h.unlisted hunl
    obtain ⟨-, rfl⟩ := insertTrade_ok hj
    have hlis : k.Lists (newTrade k.userId draw.tradeId req.1).record.stored := ⟨req.2, rfl⟩
    refine ⟨draw.tradeId, req.1.setup, h.state.insert hunl hlis, ?_, ?_, ?_⟩
    · intro i' other tradeId hi'
      dsimp only at hi'
      by_cases hii : i' = i
      · subst hii
        rw [update_self] at hi'
        cases hi'
        exact ⟨⟨⟨req.2, rfl⟩, rfl, rfl⟩, _, mem_append_right _ (mem_singleton_self _), hlis⟩
      · rw [update_of_ne hii] at hi'
        exact absurd hi' (hins i' other tradeId)
    · intro trade htrd
      exact absurd htrd (hbui trade)
    · intro other hoth
      rw [hans] at hoth
      cases hoth

theorem Settled.register (h : Settled id setup s) (hi : s.calls i = .inserted req tradeId) :
    Settled id setup (s.register i req tradeId) := by
  obtain ⟨hnms, hlst⟩ := h.inserted i req tradeId hi
  refine ⟨h.state.registerTrade hnms hlst, ?_, h.building, ?_⟩
  · intro j other otherId hj
    exact h.inserted j other otherId (inserted_of_update (by simp) hj)
  · intro other hoth
    have hstp : other.1.setup = setup := by
      rcases mem_cons.mp hoth with rfl | ho
      · exact hnms.setup
      · exact (h.state.eq_of_carries (h.answered other ho)).1
    rw [hstp]
    exact Ticket.carries_registerTrade hnms

theorem Settled.turn (h : Settled id setup s) {phase : ReconcilerPhase k}
    (hph : ∀ trade, phase ≠ .building trade) : Settled id setup { s with reconciler := phase } :=
  ⟨h.state, h.inserted, fun trade htrd => absurd htrd (hph trade), h.answered⟩

theorem Settled.adopt (h : Settled id setup s) (reads : SnapshotReads) (pos : k.Position) (p : Nat)
    (htgt : k.Holds (s.state.manager.object p) →
      pos.1.takeProfit = (s.state.manager.object p).tp1Price) :
    Settled id setup { s with state := TicketRace.adopt reads pos p s.state } := by
  unfold TicketRace.adopt
  split_ifs with hours
  · have hhld := hours.2
    obtain ⟨hnms, hlst⟩ := h.state.objects p hhld
    have hado := hnms.adoptPosition reads (htgt hhld)
    have hfst : pos.1.takeProfit = setup.tp1Price := by
      rw [htgt hhld, ← hnms.setup]
      rfl
    have hjrn := h.state.journalAdoption reads k.userId (s.state.manager.object p) hfst
    have hst : k.OneTrade id setup (adoptPosition reads k.userId pos.1 p s.state) :=
      hjrn.modify hhld hado
    have hstl : k.Listed (adoptPosition reads k.userId pos.1 p s.state) := (hjrn.objects p hhld).2
    refine ⟨hst, ?_, ?_, ?_⟩
    · intro i req tradeId hi
      exact ⟨(h.inserted i req tradeId hi).1, hstl⟩
    · intro trade htrd
      exact ⟨(h.building trade htrd).1, hstl⟩
    · intro req hreq
      exact h.state.carries_modify hado (h.answered req hreq)
  · exact h

theorem Settled.lookupOrphan (h : Settled id setup s) (reads : SnapshotReads) (queryFails : Bool)
    (pos : k.Position) : Settled id setup (s.lookupOrphan reads queryFails pos) := by
  unfold TicketRace.lookupOrphan
  split
  · rename_i rec hrec
    obtain ⟨hm, htkt, hu⟩ := getTradeByBrokerOrderId_some hrec
    have hlis : k.Lists rec := ⟨htkt.trans pos.2, hu⟩
    obtain ⟨hid, hstp⟩ := h.state.rows rec hm hlis
    have hstl : k.Listed
        { s.state with journal := resurrect reads k.userId pos.1 rec s.state.journal } := by
      unfold resurrect
      split_ifs
      · exact Ticket.Listed.update ⟨rec, hm, hlis⟩ _ _ _ (fun rec => ⟨rfl, rfl, rfl⟩)
      · exact ⟨rec, hm, hlis⟩
    refine ⟨h.state.resurrect reads k.userId pos.1 rec, ?_, ?_, h.answered⟩
    · intro i req tradeId hi
      exact ⟨(h.inserted i req tradeId hi).1, hstl⟩
    · intro trade htrd
      cases htrd
      exact ⟨⟨⟨hlis.1, rfl⟩, hid, hstp⟩, hstl⟩
  · exact h.turn (by simp)

theorem Settled.importOrphan (h : Settled id setup s) (reads : SnapshotReads) (draw : RegisterDraw)
    (pos : k.Position) (hn : draw.dbError = none → ¬ k.Listed s.state) :
    ∃ id setup, Settled id setup (s.importOrphan reads draw pos) := by
  unfold TicketRace.importOrphan
  split
  · exact ⟨id, setup, h.turn (by simp)⟩
  · rename_i j hj
    have hunl := hn (dbError_of_insertTrade hj)
    obtain ⟨hins, -, hans⟩ := h.unlisted hunl
    obtain ⟨-, rfl⟩ := insertTrade_ok hj
    have hlis : k.Lists (importedTrade reads k.userId draw.tradeId pos.1).record.stored :=
      ⟨pos.2, rfl⟩
    refine ⟨draw.tradeId, (importedTrade reads k.userId draw.tradeId pos.1).setup,
      h.state.insert hunl hlis, ?_, ?_, ?_⟩
    · intro i req tradeId hi
      exact absurd hi (hins i req tradeId)
    · intro trade htrd
      cases htrd
      exact ⟨⟨⟨pos.2, rfl⟩, rfl, rfl⟩, _, mem_append_right _ (mem_singleton_self _), hlis⟩
    · intro req hreq
      rw [hans] at hreq
      cases hreq

theorem Settled.registerOrphan (h : Settled id setup s) {trade : Trade}
    (htrd : s.reconciler = .building trade) :
    Settled id setup { s with state := s.state.registerTrade trade, reconciler := .idle } := by
  obtain ⟨hnms, hlst⟩ := h.building trade htrd
  refine ⟨h.state.registerTrade hnms hlst, h.inserted, by simp, ?_⟩
  intro req hreq
  rw [(h.state.eq_of_carries (h.answered req hreq)).1]
  exact Ticket.carries_registerTrade hnms

end Steps

theorem settled_step (s : TicketRace k) (a : RaceAction k) (t : TicketRace k)
    (h : ∃ id setup, Settled id setup s) (hord : s.Orderly a) (hst : s.step a = some t) :
    ∃ id setup, Settled id setup t := by
  obtain ⟨id, setup, h⟩ := h
  revert hst
  fun_cases step s a
  all_goals rintro ⟨⟩
  · exact ⟨id, setup, h.lookup _ _ _ hord⟩
  · exact h.insert _ _ _ hord
  · next hi => exact ⟨id, setup, h.register hi⟩
  · exact ⟨id, setup, h.turn (by simp)⟩
  · next hph =>
    rw [Orderly, hph] at hord
    exact ⟨id, setup, (h.adopt _ _ _ hord).turn (by simp)⟩
  · refine ⟨id, setup, h.turn ?_⟩
    intro _
    split_ifs
    all_goals simp
  · exact ⟨id, setup, h.lookupOrphan _ _ _⟩
  · exact h.importOrphan _ _ _ hord
  · next htrd => exact ⟨id, setup, h.registerOrphan htrd⟩

theorem oneEntry_throughout {s : State} {id : String} {setup : TradeSetup}
    (hs : k.OneTrade id setup s) {as : List (RaceAction k)}
    (horderly : Along step Orderly { state := s } as) :
    Throughout step OneEntry { state := s } as := by
  have hsta : Settled id setup ({ state := s } : TicketRace k) := ⟨hs, by simp, by simp, by simp⟩
  have hall := throughout_of_along step settled_step ⟨id, setup, hsta⟩ horderly
  exact Throughout.mono step (fun t ⟨_, _, ht⟩ => ht.oneEntry) hall

def sampleTicket : Ticket := ⟨"u1", "1001"⟩

def filledRequest (tp1 tp2 tp3 : ℚ) : sampleTicket.Request :=
  ⟨{ symbol := "EURUSD", direction := "BUY", brokerOrderId := "1001", fillPrice := 1.1
     stopLoss := 1.09, tp1Price := tp1, tp1Pct := 40, tp2Price := tp2, tp2Pct := 30, tp3Price := tp3
     tp3Pct := 30, lotSize := 0.3, riskAmount := 300, riskPercent := 1, rrRatio := 2, grade := "A"
     tradingStyle := "INTRADAY", session := "LONDON_OPEN", setupType := "SMC"
     executionMode := "LIMIT", confluenceScore := 8, slippage := 0, analysisId := "A-1"
     traceId := "T-1", point := 0.00001
     digits := 5 }, rfl⟩

def shownPosition (takeProfit : ℚ) : sampleTicket.Position :=
  ⟨{ symbol := "EURUSD", direction := "BUY", entryPrice := 1.1, stopLoss := 1.09
     takeProfit := takeProfit, volume := 0.3
     ticket := "1001" }, rfl⟩

def proUser : Claims where
  userId := "u1"
  tier := "pro"

theorem oneTrade_init (id : String) (setup : TradeSetup) :
    sampleTicket.OneTrade id setup init where
  rows := by simp [init]
  objects := by
    intro p hp
    have htkt : (default : Trade).brokerOrderId = "1001" := hp.1
    exact absurd htkt (by decide)
  keys := by simp [init, get?, empty]

theorem oneEntry_single_target :
    Throughout step OneEntry ({ state := init } : TicketRace sampleTicket)
      [.lookup 0 proUser (filledRequest 1.12 0 0) false, .insert 0 { tradeId := "TMG-1" },
        .register 0, .lookup 1 proUser (filledRequest 1.12 0 0) false,
        .snapshot (shownPosition 1.12), .adopt {}, .adopt {}] :=
  oneEntry_throughout (oneTrade_init "" (filledRequest 1.12 0 0).1.setup) (by decide +kernel)

theorem ticket_registered_twice_or_imported :
    (run step ({ state := init } : TicketRace sampleTicket)
        [.snapshot (shownPosition 1.16), .adopt {}, .lookupOrphan {} false,
          .importOrphan {} { tradeId := "TMG-1" }, .registerOrphan,
          .lookup 0 proUser (filledRequest 1.12 1.14 1.16) false]).map
        (fun s => (s.answered.map (fun req => req.1.setup),
          (s.state.manager.get? "TMG-1").map (fun t => (t.brokerOrderId, t.userId, t.setup)))) =
      some ([⟨1.12, 40, 1.14, 30, 1.16, 30, "INTRADAY", "SMC"⟩],
        some ("1001", "u1", ⟨1.16, 0, 0, 0, 0, 0, "POSITIONAL", ""⟩)) ∧
      (run step ({ state := init } : TicketRace sampleTicket)
        [.lookup 0 proUser (filledRequest 1.12 1.14 1.16) false,
          .lookup 1 proUser (filledRequest 1.12 1.14 1.16) false,
          .insert 0 { tradeId := "TMG-1" }, .insert 1 { tradeId := "TMG-2" }, .register 0,
          .register 1]).map
        (fun s => ["TMG-1", "TMG-2"].map (fun id =>
          (s.state.manager.get? id).map (fun t => (t.brokerOrderId, t.userId)))) =
      some [some ("1001", "u1"), some ("1001", "u1")] := by
  decide +kernel

end TicketRace

end ETradie.Management
