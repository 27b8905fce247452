import ETradie.Billing.Subscriptions

namespace ETradie.Billing

open Kernel List Subscription Keyed Bool

def Status.tentativeLoss : Status → Bool
  | .paused | .pastDue | .canceled | .refunded => true
  | _ => false

variable (now : Int) (r : Subscription)

def Subscription.elapsed : Bool :=
  r.status.tentativeLoss && r.currentPeriodEnd.any (fun p => p < stored now)

def Subscription.lapsed : Bool := r.elapsed now && (r.tier ≠ tierFree : Bool)

structure PeriodOrder where
  arrange : List Subscription → List Subscription
  perm : ∀ rows, (arrange rows).Perm rows
  ascending : ∀ rows, (arrange rows).Pairwise
    (fun a b => a.currentPeriodEnd.getD 0 ≤ b.currentPeriodEnd.getD 0)

def tableOrder : PeriodOrder where
  arrange := List.insertionSort (fun a b => a.currentPeriodEnd.getD 0 ≤ b.currentPeriodEnd.getD 0)
  perm := perm_insertionSort _
  ascending := fun rows => by
    have : IsTrans Subscription
        (fun a b => a.currentPeriodEnd.getD 0 ≤ b.currentPeriodEnd.getD 0) :=
      ⟨fun _ _ _ => le_trans⟩
    have : Std.Total (fun a b : Subscription =>
        a.currentPeriodEnd.getD 0 ≤ b.currentPeriodEnd.getD 0) :=
      ⟨fun _ _ => le_total _ _⟩
    exact pairwise_insertionSort _ rows

def listExpiredForDemotion (order : PeriodOrder) (now : Int) (limit : Nat)
    (t : SubscriptionTable) : List Subscription :=
  let limit := if limit = 0 then 100 else limit
  (order.arrange (t.rows.filter (Subscription.lapsed now))).take limit

def Subscription.demoted : Subscription :=
  { r with tier := tierFree, status := .canceled, eventTimestamp := stored now }

def demoteToFreeTx (userId : String) (now : Int) (t : SubscriptionTable) :
    Option Subscription × SubscriptionTable :=
  match t.get userId with
  | none => (none, t)
  | some prev =>
    if prev.eventTimestamp ≤ stored now then (some prev, t.put (prev.demoted now)) else (none, t)

def reconcilerEventName : String := "reconciler.period_end_expired"

def reconcilerProvider : String := "reconciler"

def demotionChunkSize : Nat := 200

def demotionAudit (e prev : Subscription) (now : Int) : SubscriptionEvent where
  userId := e.userId
  provider := reconcilerProvider
  eventName := reconcilerEventName
  eventId := "reconciler:" ++ e.userId ++ ":" ++ toString (e.currentPeriodEnd.getD 0 / 1000000000)
  previousTier := stringPtr prev.tier
  newTier := tierFree
  previousStatus := some prev.status
  newStatus := .canceled
  eventTimestamp := stored now

structure Demotion where
  demoted : Bool
  effects : Effects := {}
  db : Db

def demoteOne (fault : Bool) (now : Int) (e : Subscription) (db : Db) : Demotion :=
  if fault then { demoted := false, db := db }
  else
    match demoteToFreeTx e.userId now db.subscriptions with
    | (none, _) => { demoted := false, db := db }
    | (some prev, t) =>
      { demoted := true
        effects := { revokeSessions := some e.userId, monthlyReset := some (e.userId, now) }
        db := { db with subscriptions := t, audit := db.audit ++ [demotionAudit e prev now] } }

structure SweepEnv where
  clock : Nat → Int
  listFault : Nat → Option String := fun _ => none
  fault : Nat → String → Bool := fun _ _ => false
  order : Nat → PeriodOrder := fun _ => tableOrder

structure Swept where
  demoted : Nat
  error : Option String := none
  queries : Nat
  db : Db

def demoteAll (env : SweepEnv) (round : Nat) :
    List Subscription → Nat → Db → Nat × Db
  | [], demoted, db => (demoted, db)
  | e :: es, demoted, db =>
    let one := demoteOne (env.fault round e.userId) (env.clock round) e db
    demoteAll env round es (if one.demoted then demoted + 1 else demoted) one.db

def sweepExpired (env : SweepEnv) : Nat → Nat → Nat → Db → Option Swept
  | 0, _, _, _ => none
  | queries + 1, round, demoted, db =>
    match env.listFault round with
    | some e => some { demoted := demoted, error := some e, queries := round + 1, db := db }
    | none =>
      let expired := listExpiredForDemotion (env.order round) (env.clock round)
        demotionChunkSize db.subscriptions
      if expired.isEmpty then
        some { demoted := demoted, queries := round + 1, db := db }
      else
        let after := demoteAll env round expired demoted db
        if expired.length < demotionChunkSize then
          some { demoted := after.1, queries := round + 1, db := after.2 }
        else sweepExpired env queries (round + 1) after.1 after.2

variable {env : SweepEnv} {round : Nat} {now} {db : Db} {r' : Subscription} {r}

section Demotions

variable {demoted : Nat} {e : Subscription}
variable {es : List Subscription} {u : String}

def SweepEnv.hit (env : SweepEnv) (round : Nat) (r : Subscription) : Subscription :=
  if env.fault round r.userId = false ∧ r.eventTimestamp ≤ stored (env.clock round) then
    r.demoted (env.clock round)
  else r

@[simp] theorem hit_userId (env : SweepEnv) (round : Nat) (r : Subscription) :
    (env.hit round r).userId = r.userId := by
  unfold SweepEnv.hit
  split <;> rfl

theorem demoteOne_get (env : SweepEnv) (round : Nat) (e : Subscription) (db : Db) (u : String) :
    (demoteOne (env.fault round e.userId) (env.clock round) e db).db.subscriptions.get u =
      if e.userId = u then (db.subscriptions.get u).map (env.hit round)
      else db.subscriptions.get u := by
  unfold demoteOne demoteToFreeTx
  by_cases hu : e.userId = u
  · subst hu
    cases hg : db.subscriptions.get e.userId with
    | none => split <;> simp [hg]
    | some r =>
      have huser : r.userId = e.userId := key_of_get hg
      cases hflt : env.fault round e.userId with
      | true => simp [hg, SweepEnv.hit, huser, hflt]
      | false =>
        by_cases hle : r.eventTimestamp ≤ stored (env.clock round)
        · have hput := db.subscriptions.get_put_self (r.demoted (env.clock round))
          have hk : (r.demoted (env.clock round)).userId = e.userId := huser
          rw [hk] at hput
          simp [SweepEnv.hit, huser, hflt, hle, hput]
        · simp [hg, SweepEnv.hit, hle]
  · split
    · rfl
    · cases hg : db.subscriptions.get e.userId with
      | none => rfl
      | some r =>
        have huser : r.userId = e.userId := key_of_get hg
        have hk : (r.demoted (env.clock round)).userId = e.userId := huser
        by_cases hle : r.eventTimestamp ≤ stored (env.clock round)
        · simp only [hle]
          exact get_put_ne _ (fun heq => hu (hk.symm.trans heq))
        · simp [hle]

theorem demoteAll_get (hks : (es.map Subscription.userId).Nodup) :
    (demoteAll env round es demoted db).2.subscriptions.get u =
      if u ∈ es.map Subscription.userId then (db.subscriptions.get u).map (env.hit round)
      else db.subscriptions.get u := by
  induction es generalizing demoted db with
  | nil => simp [demoteAll]
  | cons e es ih =>
    obtain ⟨hn, hrs⟩ := nodup_cons.mp hks
    rw [demoteAll, ih hrs, demoteOne_get]
    by_cases hu : e.userId = u
    · subst hu
      simp [hn]
    · have hu' : ¬ u = e.userId := fun h => hu h.symm
      simp [hu, hu']

end Demotions

section Listing

variable {order : PeriodOrder} {t : SubscriptionTable}

def chunk (order : PeriodOrder) (now : Int) (t : SubscriptionTable) : List Subscription :=
  listExpiredForDemotion order now demotionChunkSize t

def candidates (now : Int) (t : SubscriptionTable) : Nat := t.rows.countP (Subscription.lapsed now)

theorem chunk_eq (order : PeriodOrder) (now : Int) (t : SubscriptionTable) :
    chunk order now t = (order.arrange (t.rows.filter (Subscription.lapsed now))).take 200 :=
  rfl

theorem mem_of_mem_chunk (h : r ∈ chunk order now t) : r ∈ t.rows ∧ r.lapsed now := by
  exact mem_filter.mp ((order.perm _).mem_iff.mp (mem_of_mem_take h))

theorem chunk_nodup : ((chunk order now t).map Subscription.userId).Nodup := by
  have hrw : ((t.rows.filter (Subscription.lapsed now)).map Subscription.userId).Nodup :=
    t.unique.sublist ((filter_sublist).map _)
  have harr := ((order.perm (t.rows.filter (Subscription.lapsed now))).map
    Subscription.userId).nodup_iff.mpr hrw
  exact harr.sublist ((take_sublist _ _).map _)

theorem length_chunk (order : PeriodOrder) (now : Int) (t : SubscriptionTable) :
    (chunk order now t).length = min 200 (candidates now t) := by
  rw [chunk_eq, length_take, (order.perm _).length_eq, candidates, countP_eq_length_filter]

theorem mem_chunk_of_short (hsho : (chunk order now t).length < 200) (hr : r ∈ t.rows)
    (hlap : r.lapsed now) : r ∈ chunk order now t := by
  have hall : (order.arrange (t.rows.filter (Subscription.lapsed now))).length ≤ 200 := by
    rw [(order.perm _).length_eq, ← countP_eq_length_filter]
    rw [length_chunk, candidates] at hsho
    omega
  rw [chunk_eq, take_of_length_le hall]
  exact (order.perm _).mem_iff.mpr (mem_filter.mpr ⟨hr, hlap⟩)

theorem lapsed_mono {now' : Int} (h : now ≤ now') (hlap : r.lapsed now) :
    r.lapsed now' := by
  unfold Subscription.lapsed elapsed at hlap ⊢
  cases hend : r.currentPeriodEnd with
  | none => simp [hend] at hlap
  | some p =>
    simp only [hend, Option.any_some, and_eq_true, decide_eq_true_eq] at hlap ⊢
    exact ⟨⟨hlap.1.1, lt_of_lt_of_le hlap.1.2 (stored_mono h)⟩, hlap.2⟩

end Listing

variable {queries : Nat}

section Rounds

variable {demoted : Nat}
def SweepEnv.listed (env : SweepEnv) (round : Nat) (db : Db) : List Subscription :=
  chunk (env.order round) (env.clock round) db.subscriptions

def SweepEnv.demotions (env : SweepEnv) (round demoted : Nat) (db : Db) : Nat × Db :=
  demoteAll env round (env.listed round db) demoted db

theorem sweepExpired_succ (hls : env.listFault round = none) :
    sweepExpired env (queries + 1) round demoted db =
      if (env.listed round db).length < demotionChunkSize then
        some
          { demoted := (env.demotions round demoted db).1, queries := round + 1
            db := (env.demotions round demoted db).2 }
      else
        sweepExpired env queries (round + 1) (env.demotions round demoted db).1
          (env.demotions round demoted db).2 := by
  unfold SweepEnv.demotions SweepEnv.listed chunk
  simp only [sweepExpired, hls]
  split
  · next hemp =>
    rw [isEmpty_iff.mp hemp]
    rfl
  · rfl

theorem listed_nodup : ((env.listed round db).map Subscription.userId).Nodup := chunk_nodup

theorem userId_mem_listed_iff (hr : r ∈ db.subscriptions.rows) :
    r.userId ∈ (env.listed round db).map Subscription.userId ↔ r ∈ env.listed round db := by
  constructor
  · intro hin
    obtain ⟨e, he, heq⟩ := mem_map.mp hin
    rwa [← eq_of_key_eq db.subscriptions.unique (mem_of_mem_chunk he).1 hr heq]
  · exact mem_map_of_mem

theorem mem_demotions_iff :
    r' ∈ (env.demotions round demoted db).2.subscriptions.rows ↔
      ∃ r ∈ db.subscriptions.rows, r' = if r ∈ env.listed round db then env.hit round r else r := by
  unfold SweepEnv.demotions
  constructor
  · intro hm
    have hg := get_key hm
    rw [demoteAll_get listed_nodup] at hg
    split at hg
    · next hin =>
      obtain ⟨r, hr, rfl⟩ := Option.map_eq_some_iff.mp hg
      have hrow := mem_of_get hr
      rw [hit_userId] at hin
      exact ⟨r, hrow, (if_pos ((userId_mem_listed_iff hrow).mp hin)).symm⟩
    · next hin =>
      have hrow := mem_of_get hg
      exact ⟨r', hrow, (if_neg (fun h => hin ((userId_mem_listed_iff hrow).mpr h))).symm⟩
  · rintro ⟨r, hrow, rfl⟩
    refine mem_of_get (k := r.userId) ?_
    rw [demoteAll_get listed_nodup, get_key hrow]
    simp only [userId_mem_listed_iff hrow]
    split <;> rfl

def SweepEnv.refuses (env : SweepEnv) (round : Nat) (r : Subscription) : Bool :=
  env.fault round r.userId || decide (stored (env.clock round) < r.eventTimestamp)

theorem refuses_eq_false_iff :
    env.refuses round r = false ↔
      env.fault round r.userId = false ∧ r.eventTimestamp ≤ stored (env.clock round) := by
  simp [SweepEnv.refuses]

theorem hit_of_refuses (h : env.refuses round r) : env.hit round r = r := by
  refine if_neg ?_
  rw [← refuses_eq_false_iff, h]
  exact Bool.noConfusion

theorem hit_of_takes (h : env.refuses round r = false) :
    env.hit round r = r.demoted (env.clock round) :=
  if_pos (refuses_eq_false_iff.mp h)

@[simp] theorem demoted_not_lapsed (now now' : Int) (r : Subscription) :
    (r.demoted now).lapsed now' = false := by
  simp [Subscription.lapsed, Subscription.demoted]

theorem mem_of_lapsed_after (hr : r ∈ (env.demotions round demoted db).2.subscriptions.rows)
    (hlap : r.lapsed now) :
    r ∈ db.subscriptions.rows ∧ (r ∈ env.listed round db → env.refuses round r) := by
  obtain ⟨r₀, hr₀, heq⟩ := mem_demotions_iff.mp hr
  split at heq
  · cases href : env.refuses round r₀ with
    | true =>
      rw [hit_of_refuses href] at heq
      subst heq
      exact ⟨hr₀, fun _ => href⟩
    | false =>
      rw [heq, hit_of_takes href, demoted_not_lapsed] at hlap
      cases hlap
  · next hout =>
    subst heq
    exact ⟨hr₀, fun hin => absurd hin hout⟩

theorem rows_nodup (t : SubscriptionTable) : t.rows.Nodup := t.unique.of_map

theorem candidates_demotions (demoted : Nat) {taken : List Subscription} (hdis : taken.Nodup)
    (htkn : ∀ e ∈ taken, e ∈ env.listed round db ∧ e.lapsed now ∧ env.refuses round e = false) :
    candidates now (env.demotions round demoted db).2.subscriptions + taken.length ≤
      candidates now db.subscriptions := by
  simp only [candidates, countP_eq_length_filter]
  rw [← length_append]
  refine (List.Nodup.subperm ?_ ?_).length_le
  · refine ((rows_nodup _).filter _).append hdis ?_
    intro e haft he
    obtain ⟨hrow, hlap⟩ := mem_filter.mp haft
    obtain ⟨hlst, -, htak⟩ := htkn e he
    have href := (mem_of_lapsed_after hrow hlap).2 hlst
    rw [htak] at href
    cases href
  · intro e he
    rcases mem_append.mp he with haft | he
    · obtain ⟨hrow, hlap⟩ := mem_filter.mp haft
      exact mem_filter.mpr ⟨(mem_of_lapsed_after hrow hlap).1, hlap⟩
    · obtain ⟨hlst, hlap, -⟩ := htkn e he
      exact mem_filter.mpr ⟨(mem_of_mem_chunk hlst).1, hlap⟩

end Rounds

section Termination

variable {demoted : Nat} {horizon : Int}
def Effective (env : SweepEnv) (db : Db) : Prop :=
  ∀ k, ∀ r ∈ db.subscriptions.rows, r.lapsed (env.clock k) = true →
    env.fault k r.userId = false ∧ r.eventTimestamp ≤ stored (env.clock k)

theorem Effective.demotions (h : Effective env db) (round demoted : Nat) :
    Effective env (env.demotions round demoted db).2 := by
  intro k r hr hlap
  exact h k r (mem_of_lapsed_after hr hlap).1 hlap

theorem candidates_full_round (h : Effective env db) (demoted : Nat)
    (hnow : env.clock round ≤ horizon)
    (hfu : ¬ (env.listed round db).length < demotionChunkSize) :
    candidates horizon (env.demotions round demoted db).2.subscriptions + demotionChunkSize ≤
      candidates horizon db.subscriptions := by
  refine (Nat.add_le_add_left (not_lt.mp hfu) _).trans
    (candidates_demotions demoted listed_nodup.of_map ?_)
  intro e he
  obtain ⟨hm, hlap⟩ := mem_of_mem_chunk he
  exact ⟨he, lapsed_mono hnow hlap, refuses_eq_false_iff.mpr (h round e hm hlap)⟩

theorem sweep_returns_within (round demoted : Nat) (h : Effective env db)
    (hclk : ∀ k, round ≤ k → k < round + queries → env.clock k ≤ horizon)
    (hbd : candidates horizon db.subscriptions < demotionChunkSize * queries) :
    ∃ res, sweepExpired env queries round demoted db = some res ∧
      res.queries ≤ round + queries := by
  induction queries generalizing round demoted db with
  | zero => exact absurd hbd (Nat.not_lt_zero _)
  | succ queries ih =>
    cases hflt : env.listFault round with
    | some e =>
      unfold sweepExpired
      rw [hflt]
      exact ⟨_, rfl, by simp⟩
    | none =>
      by_cases hsho : (env.listed round db).length < demotionChunkSize
      · rw [sweepExpired_succ hflt, if_pos hsho]
        exact ⟨_, rfl, by simp⟩
      · have hcnt := candidates_full_round h demoted
          (hclk round (le_refl _) (by omega)) hsho
        rw [sweepExpired_succ hflt, if_neg hsho]
        obtain ⟨res, hres, hq⟩ := ih (round + 1) _ (h.demotions round demoted)
          (fun k _ _ => hclk k (by omega) (by omega))
          (by rw [Nat.mul_succ] at hbd; omega)
        exact ⟨res, hres, by omega⟩

theorem sweep_never_returns (queries round demoted : Nat) (stuck : List Subscription)
    (hls : ∀ k, env.listFault k = none) (hdis : stuck.Nodup)
    (hsz : demotionChunkSize ≤ stuck.length)
    (hstu : ∀ r ∈ stuck, ∀ k, r.lapsed (env.clock k) ∧ env.hit k r = r)
    (hrw : ∀ r ∈ stuck, r ∈ db.subscriptions.rows) :
    sweepExpired env queries round demoted db = none := by
  induction queries generalizing round demoted db with
  | zero => rfl
  | succ queries ih =>
    have hfu : ¬ (env.listed round db).length < demotionChunkSize := by
      have hcan : stuck.length ≤ candidates (env.clock round) db.subscriptions := by
        rw [candidates, countP_eq_length_filter]
        refine (hdis.subperm ?_).length_le
        intro r hr
        exact mem_filter.mpr ⟨hrw r hr, (hstu r hr round).1⟩
      rw [SweepEnv.listed, length_chunk, not_lt]
      exact le_min (le_refl _) (hsz.trans hcan)
    rw [sweepExpired_succ (hls round), if_neg hfu]
    refine ih _ _ ?_
    intro r hr
    refine mem_demotions_iff.mpr ⟨r, hrw r hr, ?_⟩
    split
    · exact (hstu r hr round).2.symm
    · rfl

structure Steady (env : SweepEnv) (db : Db) : Prop where
  list : ∀ k, env.listFault k = none
  lapsed : ∀ k, ∀ r ∈ db.subscriptions.rows, r.lapsed (env.clock k) = r.lapsed (env.clock 0)
  refuses : ∀ k, ∀ r ∈ db.subscriptions.rows, r.lapsed (env.clock 0) = true →
    env.refuses k r = env.refuses 0 r

def stuckRows (env : SweepEnv) (db : Db) : List Subscription :=
  db.subscriptions.rows.filter (fun r => r.lapsed (env.clock 0) && env.refuses 0 r)

theorem Steady.demotions (h : Steady env db) : Steady env (env.demotions round demoted db).2 := by
  refine ⟨h.list, ?_, ?_⟩
  · intro k r hr
    by_cases hany : ∃ now, r.lapsed now = true
    · obtain ⟨now, hnow⟩ := hany
      exact h.lapsed k r (mem_of_lapsed_after hr hnow).1
    · have hnvr : ∀ now, r.lapsed now = false := by
        intro now
        by_contra hlap
        exact hany ⟨now, not_eq_false _ ▸ hlap⟩
      rw [hnvr, hnvr]
  · intro k r hr hlap
    exact h.refuses k r (mem_of_lapsed_after hr hlap).1 hlap

theorem stuckRows_demotions :
    (stuckRows env (env.demotions round demoted db).2).length ≤ (stuckRows env db).length := by
  refine (((rows_nodup _).filter _).subperm ?_).length_le
  intro r hr
  obtain ⟨hm, hstu⟩ := mem_filter.mp hr
  obtain ⟨hlap, -⟩ := and_eq_true_iff.mp hstu
  exact mem_filter.mpr ⟨(mem_of_lapsed_after hm hlap).1, hstu⟩

theorem candidates_lt_of_full (demoted : Nat) (h : Steady env db)
    (hfew : (stuckRows env db).length < demotionChunkSize)
    (hfu : ¬ (env.listed round db).length < demotionChunkSize) :
    candidates (env.clock 0) (env.demotions round demoted db).2.subscriptions <
      candidates (env.clock 0) db.subscriptions := by
  have hlst : ∀ e ∈ env.listed round db,
      e ∈ db.subscriptions.rows ∧ e.lapsed (env.clock 0) := by
    intro e he
    obtain ⟨hm, hlap⟩ := mem_of_mem_chunk he
    exact ⟨hm, h.lapsed round e hm ▸ hlap⟩
  -- not every listed row is stuck
  obtain ⟨e, he, htak⟩ : ∃ e ∈ env.listed round db, env.refuses round e = false := by
    by_contra hall
    have hsub : ∀ e ∈ env.listed round db, e ∈ stuckRows env db := by
      intro e he
      obtain ⟨hm, hlap⟩ := hlst e he
      have href : env.refuses round e := by
        by_contra hnot
        exact hall ⟨e, he, eq_false_iff.mpr hnot⟩
      rw [h.refuses round e hm hlap] at href
      exact mem_filter.mpr ⟨hm, and_eq_true_iff.mpr ⟨hlap, href⟩⟩
    exact hfu ((listed_nodup.of_map.subperm hsub).length_le.trans_lt hfew)
  refine candidates_demotions demoted (nodup_singleton e) ?_
  intro _ he'
  cases mem_singleton.mp he'
  exact ⟨he, (hlst e he).2, htak⟩

theorem sweep_returns_steady (round demoted : Nat) (h : Steady env db)
    (hfew : (stuckRows env db).length < demotionChunkSize) :
    ∃ queries res, sweepExpired env queries round demoted db = some res := by
  -- by strong induction on the number of candidates, which every full round lowers
  induction hn : candidates (env.clock 0) db.subscriptions using Nat.strong_induction_on
    generalizing round demoted db with
  | _ n ih =>
    by_cases hsho : (env.listed round db).length < demotionChunkSize
    · exact ⟨1, _, (sweepExpired_succ (h.list round)).trans (if_pos hsho)⟩
    · have hlo := candidates_lt_of_full demoted h hfew hsho
      obtain ⟨queries, res, hres⟩ := ih _ (hn ▸ hlo) (round + 1)
        (env.demotions round demoted db).1 h.demotions
        (stuckRows_demotions.trans_lt hfew) rfl
      exact ⟨queries + 1, res, (sweepExpired_succ (h.list round)).trans ((if_neg hsho).trans hres)⟩

theorem sweep_terminates_iff (env : SweepEnv) (db : Db) :
    (Effective env db → ∀ horizon,
        (∀ k ≤ candidates horizon db.subscriptions / demotionChunkSize, env.clock k ≤ horizon) →
        ∃ res, sweepExpired env
            (candidates horizon db.subscriptions / demotionChunkSize + 1) 0 0 db = some res ∧
          res.queries ≤ candidates horizon db.subscriptions / demotionChunkSize + 1) ∧
      (Steady env db →
        ((∃ queries res, sweepExpired env queries 0 0 db = some res) ↔
          (stuckRows env db).length < demotionChunkSize)) := by
  constructor
  · intro heff horizon hclk
    obtain ⟨res, hres, hq⟩ := sweep_returns_within 0 0 heff
      (fun k _ _ => hclk k (by omega)) (Nat.lt_mul_div_succ _ (by decide))
    exact ⟨res, hres, by omega⟩
  intro hste
  constructor
  · rintro ⟨queries, res, hres⟩
    by_contra hmany
    have hnvr := sweep_never_returns queries 0 0
      (stuckRows env db) hste.list ((rows_nodup _).filter _) (not_lt.mp hmany) ?_
      (fun r hr => (mem_filter.mp hr).1)
    · rw [hnvr] at hres
      cases hres
    · intro r hr k
      obtain ⟨hm, hstu⟩ := mem_filter.mp hr
      obtain ⟨hlap, href⟩ := and_eq_true_iff.mp hstu
      exact ⟨(hste.lapsed k r hm).trans hlap,
        hit_of_refuses ((hste.refuses k r hm hlap).trans href)⟩
  · intro hfew
    exact sweep_returns_steady 0 0 hste hfew

def pastDueRow (n : Nat) : Subscription where
  userId := String.ofList (List.replicate n 'u')
  tier := tierProBYOK
  status := .pastDue
  currentPeriodEnd := some 1000000
  eventTimestamp := 1000000

theorem pastDueRow_injective : Function.Injective (fun n => (pastDueRow n).userId) := by
  intro n m h
  have hlis : List.replicate n 'u' = List.replicate m 'u' := String.ofList_injective h
  simpa using congrArg List.length hlis

def pastDueTable (size : Nat) : Db :=
  { Db.empty with
    subscriptions :=
      { rows := (List.range size).map pastDueRow
        unique := by
          rw [map_map]
          exact nodup_range.map pastDueRow_injective } }

def refusing : SweepEnv where
  clock := fun k => 2000000 + 1000 * k
  fault := fun _ _ => true

theorem refused_chunk_never_returns :
    (pastDueTable 200).subscriptions.rows.length = demotionChunkSize ∧
      ∀ queries, sweepExpired refusing queries 0 0 (pastDueTable 200) = none := by
  refine ⟨by simp [pastDueTable, demotionChunkSize], ?_⟩
  intro queries
  refine sweep_never_returns queries 0 0 ((List.range 200).map pastDueRow) ?_ ?_ ?_ ?_ ?_
  · exact fun _ => rfl
  · exact (pastDueTable 200).subscriptions.unique.of_map
  · rfl
  · intro r hr k
    obtain ⟨n, -, rfl⟩ := mem_map.mp hr
    refine ⟨?_, rfl⟩
    have hclk : (1000000 : Int) < stored (refusing.clock k) := by
      simp only [refusing, stored]
      omega
    simp [Subscription.lapsed, elapsed, pastDueRow, Status.tentativeLoss, hclk,
      tierProBYOK, tierFree]
  · exact fun r hr => hr

theorem sweep_terminates_two_rows :
    candidates 2000000 (pastDueTable 2).subscriptions = 2 ∧
      ∃ res, sweepExpired { clock := fun _ => 2000000 } 1 0 0 (pastDueTable 2) = some res ∧
        res.queries ≤ 1 := by
  have hcnt : candidates 2000000 (pastDueTable 2).subscriptions = 2 := by decide +kernel
  have heff : Effective { clock := fun _ => 2000000 } (pastDueTable 2) := by
    intro k r hr _
    obtain ⟨n, -, rfl⟩ := mem_map.mp hr
    exact ⟨rfl, show (1000000 : Int) ≤ stored 2000000 by decide⟩
  have hres := (sweep_terminates_iff { clock := fun _ => 2000000 } (pastDueTable 2)).1 heff
    2000000 (fun _ _ => le_refl _)
  exact ⟨hcnt, hres⟩

end Termination

section Completeness

variable {demoted : Nat} {t : Int} {res : Swept}

def isPaidTier (tier : Tier) : Bool := isValidTier tier && (tier ≠ tierFree : Bool)

def Subscription.lapsedPaid (t : Int) (r : Subscription) : Bool :=
  isPaidTier r.tier && (r.status ≠ .active : Bool) && r.currentPeriodEnd.any (fun p => p < stored t)

def Subscription.overlooked (t : Int) (r : Subscription) : Bool :=
  r.lapsedPaid t && (r.status = .unpaid || r.status = .expired)

theorem lapsed_of_lapsedPaid (h : r.lapsedPaid t)
    (hnot : r.overlooked t = false) : r.lapsed t := by
  rw [overlooked, h] at hnot
  simp only [lapsedPaid, isPaidTier] at h
  simp only [Subscription.lapsed, elapsed]
  cases hsts : r.status <;> simp_all [Status.tentativeLoss]

theorem not_lapsed_of_overlooked (h : r.overlooked t) (now : Int) :
    r.lapsed now = false := by
  simp only [overlooked] at h
  cases hsts : r.status <;> simp_all [Subscription.lapsed, elapsed, Status.tentativeLoss]

structure SweptRows (t : Int) (before after : SubscriptionTable) : Prop where
  clean : ∀ r ∈ after.rows, r.lapsed t = false
  changed : ∀ r ∈ after.rows, r ∈ before.rows ∨ r.tier = tierFree
  kept : ∀ r ∈ before.rows, (∀ now, r.lapsed now = false) → r ∈ after.rows

theorem demotions_rows (env : SweepEnv) (round demoted : Nat) (db : Db) :
    (∀ r ∈ (env.demotions round demoted db).2.subscriptions.rows,
        r ∈ db.subscriptions.rows ∨ r.tier = tierFree) ∧
      ∀ r ∈ db.subscriptions.rows, (∀ now, r.lapsed now = false) →
        r ∈ (env.demotions round demoted db).2.subscriptions.rows := by
  constructor
  · intro _ hr'
    obtain ⟨r, hr, rfl⟩ := mem_demotions_iff.mp hr'
    unfold SweepEnv.hit
    split_ifs
    · exact .inr rfl
    · exact .inl hr
    · exact .inl hr
  · intro r hr hnvr
    refine mem_demotions_iff.mpr ⟨r, hr, (if_neg ?_).symm⟩
    intro hin
    have hlap := (mem_of_mem_chunk hin).2
    rw [hnvr] at hlap
    cases hlap

theorem demotions_clean (h : Effective env db) (demoted : Nat) (ht : t ≤ env.clock round)
    (hsho : (env.listed round db).length < demotionChunkSize) :
    ∀ r ∈ (env.demotions round demoted db).2.subscriptions.rows, r.lapsed t = false := by
  intro r hr
  by_contra hlap
  have hlap : r.lapsed t := not_eq_false _ ▸ hlap
  obtain ⟨hrow, hlst⟩ := mem_of_lapsed_after hr hlap
  have hnow := lapsed_mono ht hlap
  have href := hlst (mem_chunk_of_short hsho hrow hnow)
  rw [refuses_eq_false_iff.mpr (h round r hrow hnow)] at href
  cases href

theorem sweep_rows (h : Effective env db) (hls : ∀ k, env.listFault k = none)
    (hclk : ∀ k, t ≤ env.clock k) (hres : sweepExpired env queries round demoted db = some res) :
    res.error = none ∧ SweptRows t db.subscriptions res.db.subscriptions := by
  induction queries generalizing round demoted db with
  | zero => cases hres
  | succ queries ih =>
    obtain ⟨hcha, hkp⟩ := demotions_rows env round demoted db
    rw [sweepExpired_succ (hls round)] at hres
    split at hres
    · next hsho =>
      cases hres
      exact ⟨rfl, demotions_clean h demoted (hclk round) hsho, hcha, hkp⟩
    · obtain ⟨herr, hcle, hcha', hkp'⟩ := ih (h.demotions round demoted) hres
      refine ⟨herr, hcle, ?_, ?_⟩
      · intro r hr
        exact (hcha' r hr).elim (hcha r) .inr
      · intro r hr hnvr
        exact hkp' r (hkp r hr hnvr) hnvr

def replay (text : CaseMap) (usage : Bool) (maps : TierMaps) (history : List (Delivery × Int)) :
    Db :=
  history.foldl
    (fun db d =>
      match d.1.parse text maps d.2 with
      | .error _ => db
      | .ok ev => (handleEvent text usage noFaults ev db).db)
    Db.empty

def lemonSubscription (eventId status : String) (updatedAt endsAt : Int) :
    LemonSqueezy.RawWebhook where
  eventId := eventId
  customData := [("user_id", .text "u1")]
  dataId := "4711"
  attributes :=
    { variantId := "22", status := status, endsAt := some endsAt, updatedAt := updatedAt }

def endedHistory (status : String) : List (Delivery × Int) :=
  [(.lemonSqueezy "subscription_created" (.ok (lemonSubscription "evt_1" "active" 1000000 5000000)),
      1000000),
    (.lemonSqueezy "subscription_updated" (.ok (lemonSubscription "evt_2" status 6000000 5000000)),
      6000000)]

theorem sweep_demotes_lapsed_iff (text : CaseMap) (usage : Bool) (maps : TierMaps)
    (history : List (Delivery × Int)) (env : SweepEnv) (t : Int)
    (hlist : ∀ k, env.listFault k = none)
    (heffective : Effective env (replay text usage maps history)) (hclock : ∀ k, t ≤ env.clock k) :
    ∃ queries res,
      sweepExpired env queries 0 0 (replay text usage maps history) = some res ∧
      res.error = none ∧
      ((∀ r ∈ res.db.subscriptions.rows, r.lapsedPaid t = false) ↔
        ∀ r ∈ (replay text usage maps history).subscriptions.rows, r.overlooked t = false) := by
  generalize replay text usage maps history = db at heffective ⊢
  obtain ⟨horizon, hhor⟩ :=
    Finset.exists_le ((Finset.range (db.subscriptions.rows.length + 1)).image env.clock)
  have hbd : candidates horizon db.subscriptions <
      demotionChunkSize * (db.subscriptions.rows.length + 1) := by
    have hle : candidates horizon db.subscriptions ≤ db.subscriptions.rows.length :=
      countP_le_length
    unfold demotionChunkSize
    omega
  obtain ⟨res, hres, -⟩ := sweep_returns_within 0 0 heffective
    (fun k _ _ => hhor _ (Finset.mem_image_of_mem _ (Finset.mem_range.mpr (by omega)))) hbd
  obtain ⟨herr, hcle, hcha, hkp⟩ := sweep_rows heffective hlist hclock hres
  refine ⟨_, res, hres, herr, ?_, ?_⟩
  · intro hno r hr
    by_contra hov
    have hov : r.overlooked t = true := not_eq_false _ ▸ hov
    have hpd : r.lapsedPaid t = true := (and_eq_true_iff.mp hov).1
    rw [hno r (hkp r hr (not_lapsed_of_overlooked hov))] at hpd
    cases hpd
  · intro hno r hr
    by_contra hpd
    have hpd : r.lapsedPaid t = true := not_eq_false _ ▸ hpd
    rcases hcha r hr with hbef | hfe
    · have hlap := lapsed_of_lapsedPaid hpd (hno r hbef)
      rw [hcle r hr] at hlap
      cases hlap
    · simp [lapsedPaid, isPaidTier, hfe] at hpd

def sweptRows (t : Int) (history : List (Delivery × Int)) : Option (List Subscription) :=
  (sweepExpired { clock := fun _ => t } 5 0 0
    (replay asciiCaseMap true sampleMaps history)).map (·.db.subscriptions.rows)

theorem expired_subscription_overlooked :
    ["expired", "unpaid"].map (fun status =>
        (sweptRows 10000000 (endedHistory status)).map
          (List.map (fun r => (r.tier, r.status.label, r.lapsedPaid 10000000)))) =
      [some [("pro_managed", "expired", true)], some [("pro_managed", "unpaid", true)]] := by
  decide +kernel

theorem sweep_demotes_past_due :
    ∃ queries res,
      sweepExpired { clock := fun _ => 10000000 } queries 0 0
        (replay asciiCaseMap true sampleMaps (endedHistory "past_due")) = some res ∧
      ∀ r ∈ res.db.subscriptions.rows, r.lapsedPaid 10000000 = false := by
  have hrw : ∀ r ∈ (replay asciiCaseMap true sampleMaps
      (endedHistory "past_due")).subscriptions.rows,
      r.eventTimestamp ≤ 6000000 ∧ r.overlooked 10000000 = false := by
    decide +kernel
  obtain ⟨queries, res, hres, -, hiff⟩ := sweep_demotes_lapsed_iff asciiCaseMap true sampleMaps
    (endedHistory "past_due") { clock := fun _ => 10000000 } 10000000 (fun _ => rfl)
    (fun _ r hr _ => ⟨rfl, (hrw r hr).1.trans (show 6000000 ≤ stored 10000000 by decide)⟩)
    (fun _ => le_refl _)
  exact ⟨queries, res, hres, hiff.mpr (fun r hr => (hrw r hr).2)⟩

end Completeness

end ETradie.Billing
