import ETradie.Management.TakeProfit

namespace ETradie.Management

open List TpLevel

structure Evaluation where
  draw : TpDraw
  price : ℚ
  deal : HistoryDeal

structure TakenLeg where
  leg : Leg
  answers : List HistoryAnswer
  deal : HistoryDeal

structure Ladder where
  account : Account
  taken : List TakenLeg := []

variable (s : Ladder) (e : Evaluation)

namespace Ladder

def trade (s : Ladder) : Trade := s.account.trade

def evaluate : Ladder :=
  match evaluateTP e.draw e.price s.account with
  | .error _ => s
  | .ok (none, b) => { s with account := b }
  | .ok (some level, b) =>
    { account := b
      taken := ⟨closedLeg e.draw level e.price s.trade, e.draw.answers, e.deal⟩ :: s.taken }

def climb (a : Account) (evals : List Evaluation) : Ladder := evals.foldl evaluate { account := a }

def closedVolume : ℚ := (s.taken.map (·.leg.volume)).sum

end Ladder

def TpLevel.isHit (level : TpLevel) (t : Trade) : Bool :=
  match level with
  | .tp1 => t.tp1Hit
  | .tp2 => t.tp2Hit
  | .tp3 => t.tp3Hit

structure Untouched (t : Trade) : Prop where
  pct1 : 0 ≤ t.tp1Pct
  pct2 : 0 ≤ t.tp2Pct
  volume : 0 < t.totalLotSize
  whole : t.remainingLotSize = t.totalLotSize
  unhit : ∀ level : TpLevel, level.isHit t = false

structure OnLadder (s : Ladder) : Prop where
  third : s.trade.tp3Hit = true → s.trade.tp2Hit = true
  second : s.trade.tp2Hit = true → s.trade.tp1Hit = true
  nonneg : 0 ≤ s.trade.remainingLotSize
  atMost : s.trade.remainingLotSize ≤ s.trade.totalLotSize
  volume : s.trade.remainingLotSize = s.trade.totalLotSize - s.closedVolume ∨
    s.trade.totalLotSize - s.closedVolume ≤ dustLot ∧ s.trade.remainingLotSize = 0
  once : (s.taken.map (·.leg.level)).Nodup

def Ladder.Refused : Prop :=
  ∃ level, dueLevel e.price s.trade = some level ∧ closeLeg e.draw level ≠ .ok ()

theorem Ladder.evaluate_cases :
    ((∀ level, dueLevel e.price s.trade = some level → closeLeg e.draw level ≠ .ok ()) ∧
        s.evaluate e = s) ∨
      ∃ level, dueLevel e.price s.trade = some level ∧ closeLeg e.draw level = .ok () ∧
        s.evaluate e =
          { account := (closedLeg e.draw level e.price s.trade).book e.draw.partialOk
              e.draw.runtimeOk s.account
            taken :=
              ⟨closedLeg e.draw level e.price s.trade, e.draw.answers, e.deal⟩ :: s.taken } := by
  unfold Ladder.evaluate
  rcases evaluateTP_cases e.draw e.price s.account with
    ⟨hno, ⟨_, hev⟩ | hev⟩ | ⟨level, hdue, hcl, hev⟩
  · exact .inl ⟨hno, by rw [hev]⟩
  · exact .inl ⟨hno, by rw [hev]⟩
  · exact .inr ⟨level, hdue, hcl, by rw [hev]; rfl⟩

variable {price : ℚ} {t : Trade}

theorem dueLevel_spec {level : TpLevel} (h : dueLevel price t = some level) :
    level.isHit t = false ∧ (level = .tp2 → t.tp1Hit) ∧ (level = .tp3 → t.tp2Hit) := by
  unfold dueLevel at h
  split_ifs at h <;> cases h <;> simp_all [isHit]

theorem isHit_record (leg : Leg) (t : Trade) (level : TpLevel) :
    level.isHit (leg.record t) = (level.isHit t || level = leg.level) := by
  unfold Leg.record mark
  cases leg.level <;> cases level <;> simp only <;> split_ifs <;> simp [isHit]

theorem record_plan (leg : Leg) (t : Trade) :
    (leg.record t).totalLotSize = t.totalLotSize ∧ (leg.record t).tp1Pct = t.tp1Pct ∧
      (leg.record t).tp2Pct = t.tp2Pct ∧ (leg.record t).brokerOrderId = t.brokerOrderId ∧
      (leg.record t).symbol = t.symbol := by
  unfold Leg.record
  cases leg.level <;> simp only <;> split_ifs <;> exact ⟨rfl, rfl, rfl, rfl, rfl⟩

theorem closeVol_bounds (h1 : 0 ≤ t.tp1Pct) (h2 : 0 ≤ t.tp2Pct)
    (htot : 0 ≤ t.totalLotSize) (hlf : 0 ≤ t.remainingLotSize) (level : TpLevel) :
    0 ≤ level.closeVol t ∧ level.closeVol t ≤ t.remainingLotSize := by
  have hsha : ∀ pct : Int, 0 ≤ pct →
      0 ≤ share pct t ∧ share pct t ≤ t.remainingLotSize := by
    intro pct _
    have hpt : 0 ≤ t.totalLotSize * pct / 100 := by positivity
    unfold share
    simp only
    split_ifs with hmr
    · exact ⟨hlf, le_rfl⟩
    · exact ⟨hpt, not_lt.mp hmr⟩
  cases level with
  | tp1 => exact hsha _ h1
  | tp2 => exact hsha _ h2
  | tp3 => exact ⟨hlf, le_rfl⟩

structure Climbed (s : Ladder) : Prop extends OnLadder s where
  pct1 : 0 ≤ s.trade.tp1Pct
  pct2 : 0 ≤ s.trade.tp2Pct
  flagged : ∀ k ∈ s.taken, k.leg.level.isHit s.trade = true

variable {leg : Leg}

theorem record_volume {closed : ℚ} (hnn : 0 ≤ leg.volume)
    (h : t.remainingLotSize = t.totalLotSize - closed ∨
      t.totalLotSize - closed ≤ dustLot ∧ t.remainingLotSize = 0) :
    (leg.record t).remainingLotSize = t.totalLotSize - (leg.volume + closed) ∨
      t.totalLotSize - (leg.volume + closed) ≤ dustLot ∧ (leg.record t).remainingLotSize = 0 := by
  have hdust := dustLot_pos
  rw [leg.record_remaining t]
  split_ifs with hless
  · refine .inr ⟨?_, rfl⟩
    rcases h with hlf | ⟨hsml, -⟩ <;> linarith
  · rcases h with hlf | ⟨-, hgo⟩
    · exact .inl (by linarith)
    · exact absurd (by linarith) hless

theorem record_remaining_bounds (hnn : 0 ≤ leg.volume)
    (hmt : leg.volume ≤ t.remainingLotSize) :
    0 ≤ (leg.record t).remainingLotSize ∧ (leg.record t).remainingLotSize ≤ t.remainingLotSize := by
  rw [leg.record_remaining t]
  split_ifs <;> constructor <;> linarith

variable {s} {k : TakenLeg}

theorem Climbed.take {b : Account} (h : Climbed s)
    (hdue : dueLevel price s.trade = some k.leg.level)
    (hvol : k.leg.volume = k.leg.level.closeVol s.trade) (hb : b.trade = k.leg.record s.trade) :
    Climbed { account := b, taken := k :: s.taken } := by
  obtain ⟨hunh, hsnd, hthd⟩ := dueLevel_spec hdue
  have hbou := closeVol_bounds h.pct1 h.pct2 (h.nonneg.trans h.atMost) h.nonneg k.leg.level
  rw [← hvol] at hbou
  obtain ⟨hlf, hless⟩ := record_remaining_bounds hbou.1 hbou.2
  obtain ⟨htot, hpct1, hpct2, -, -⟩ := record_plan k.leg s.trade
  have hfla := isHit_record k.leg s.trade
  have hn : ∀ r ∈ s.taken, r.leg.level ≠ k.leg.level := by
    intro r hr hsm
    rw [← hsm, h.flagged r hr] at hunh
    cases hunh
  have htrd : Ladder.trade { account := b, taken := k :: s.taken } = k.leg.record s.trade := hb
  constructor
  · constructor
    · have h3 := hfla .tp3
      have h2 := hfla .tp2
      have hbef := h.third
      simp only [isHit] at h2 h3
      grind
    · have h2 := hfla .tp2
      have h1 := hfla .tp1
      have hbef := h.second
      simp only [isHit] at h1 h2
      grind
    · rw [htrd]
      exact hlf
    · rw [htrd, htot]
      exact hless.trans h.atMost
    · rw [htrd, htot]
      exact record_volume hbou.1 h.volume
    · rw [map_cons, nodup_cons, mem_map]
      refine ⟨?_, h.once⟩
      rintro ⟨r, hr, hsm⟩
      exact hn r hr hsm
  · rw [htrd, hpct1]
    exact h.pct1
  · rw [htrd, hpct2]
    exact h.pct2
  · rw [htrd]
    refine forall_mem_cons.mpr ⟨by simp [hfla], ?_⟩
    intro r hr
    simp [hfla, h.flagged r hr]

theorem Climbed.evaluate (h : Climbed s) (e : Evaluation) : Climbed (s.evaluate e) := by
  rcases s.evaluate_cases e with ⟨-, hsm⟩ | ⟨level, hdue, -, hev⟩
  · rw [hsm]
    exact h
  · rw [hev]
    exact h.take hdue rfl rfl

theorem Climbed.foldl (h : Climbed s) (evals : List Evaluation) :
    Climbed (evals.foldl Ladder.evaluate s) := by
  induction evals generalizing s with
  | nil => exact h
  | cons e evals ih => exact ih (h.evaluate e)

theorem Untouched.climbed {a : Account} (h : Untouched a.trade) : Climbed { account := a } := by
  have hunh := h.unhit
  refine ⟨⟨?_, ?_, ?_, h.whole.le, .inl ?_, nodup_nil⟩, h.pct1, h.pct2, by simp⟩
  · intro hhit
    exact absurd hhit (Bool.eq_false_iff.mp (hunh .tp3))
  · intro hhit
    exact absurd hhit (Bool.eq_false_iff.mp (hunh .tp2))
  · exact h.volume.le.trans h.whole.ge
  · rw [Ladder.closedVolume, map_nil, sum_nil, sub_zero]
    exact h.whole

def legsTrade : Trade := { eurusdTrade 1.12 with tp1Pct := 40, tp2Pct := 40, tp3Pct := 20 }

def legsStart : Account where
  trade := legsTrade
  journal := []

def legsDeal (ticket : String) (profit : ℚ) : HistoryDeal where
  ticket := ticket
  positionId := "1001"
  symbol := "EURUSD"
  volume := 0.12
  profit := profit

theorem untouched_legsTrade : Untouched legsTrade := by
  refine ⟨by decide, by decide, by decide +kernel, rfl, ?_⟩
  intro level
  cases level <;> rfl

def legDeal (brokerOrderId symbol : String) (closedVolume : ℚ) (answer : HistoryAnswer) :
    Option HistoryDeal :=
  let deals := closedDeals brokerOrderId symbol answer
  let sameVolume := deals.find? (fun d =>
    closedVolume > 0 && |d.volume - closedVolume| ≤ lotEpsilon)
  sameVolume <|> deals.head?

namespace TakenLeg

variable (k : TakenLeg) (t : Trade)

def deals (answer : HistoryAnswer) : List HistoryDeal := closedDeals t.brokerOrderId t.symbol answer

def paidBy : Option HistoryDeal :=
  (k.answers.take 5).findSome? (legDeal t.brokerOrderId t.symbol k.leg.volume)

def Listed : Prop :=
  |k.deal.volume - k.leg.volume| ≤ lotEpsilon ∧
    (∀ answer ∈ k.answers, k.deal ∈ deals t answer → (deals t answer).head? = some k.deal) ∧
    ∃ answer ∈ k.answers.take 5, k.deal ∈ deals t answer

instance : Decidable (k.Listed t) := inferInstanceAs (Decidable (_ ∧ _ ∧ ∃ _ ∈ _, _))

def Prompt : Prop :=
  ∀ answer ∈ (k.answers.take 5).find? (fun answer => deals t answer ≠ []), k.deal ∈ deals t answer

instance : Decidable (k.Prompt t) := inferInstanceAs (Decidable (∀ _ ∈ _, _))

end TakenLeg

structure PaidApart (opening : HistoryDeal) (t : Trade) (taken : List TakenLeg) : Prop where
  own : ∀ k ∈ taken, k.paidBy t = some k.deal ∧ k.leg.pnl = k.deal.total
  once : (taken.map (·.paidBy t)).Nodup
  notOpening : some opening ∉ taken.map (·.paidBy t)

variable {id symbol : String} {volume : ℚ} {answer : HistoryAnswer} {d : HistoryDeal}

theorem mem_of_legDeal
    (h : legDeal id symbol volume answer = some d) : d ∈ closedDeals id symbol answer := by
  rcases (Option.orElse_eq_some _ _ _).mp h with hfnd | ⟨-, hhe⟩
  · exact mem_of_find?_eq_some hfnd
  · exact mem_of_head? hhe

theorem legDeal_eq_none_iff :
    legDeal id symbol volume answer = none ↔ closedDeals id symbol answer = [] := by
  constructor
  · intro h
    exact head?_eq_none_iff.mp ((Option.orElse_eq_none _ _).mp h).2
  · intro h
    simp [legDeal, h]

theorem legDeal_of_head (hhe : (closedDeals id symbol answer).head? = some d)
    (hvol : |d.volume - volume| ≤ lotEpsilon) : legDeal id symbol volume answer = some d := by
  obtain ⟨rest, hdea⟩ := head?_eq_some_iff.mp hhe
  unfold legDeal
  simp only [hdea]
  by_cases hpos : volume > 0
  · rw [find?_cons_of_pos (by simp [hpos, hvol])]
    rfl
  · rw [find?_eq_none.mpr (by simp [hpos])]
    rfl

theorem paidBy_iff_prompt (h : k.Listed t) : k.paidBy t = some k.deal ↔ k.Prompt t := by
  obtain ⟨hvol, hlat, answer, hans, hlst⟩ := h
  unfold TakenLeg.paidBy TakenLeg.Prompt
  have hsub : ∀ answer ∈ k.answers.take 5, answer ∈ k.answers := fun _ hm => mem_of_mem_take hm
  -- the poll goes on as long as the answers have no deal of the position
  generalize k.answers.take 5 = answers at hans hsub ⊢
  induction answers with
  | nil => cases hans
  | cons first rest ih =>
    by_cases hemp : TakenLeg.deals t first = []
    · have hm : answer ∈ rest := by
        rcases mem_cons.mp hans with rfl | hm
        · rw [hemp] at hlst
          cases hlst
        · exact hm
      rw [findSome?_cons, legDeal_eq_none_iff.mpr hemp, find?_cons_of_neg (by simp [hemp])]
      exact ih hm (fun a ha => hsub a (mem_cons_of_mem first ha))
    · rw [find?_cons_of_pos (by simp [hemp])]
      obtain ⟨d, hd⟩ := Option.ne_none_iff_exists'.mp
        (fun hno => hemp (legDeal_eq_none_iff.mp hno) :
          legDeal t.brokerOrderId t.symbol k.leg.volume first ≠ none)
      rw [findSome?_cons, hd]
      simp only [Option.mem_def, Option.some.injEq, forall_eq']
      constructor
      · rintro rfl
        exact mem_of_legDeal hd
      · intro hm
        have hown := legDeal_of_head (hlat first (hsub first mem_cons_self) hm) hvol
        rw [hown] at hd
        exact (Option.some.inj hd).symm

theorem legPnL_of_paidBy {answers : List HistoryAnswer}
    (h : (answers.take 5).findSome? (legDeal t.brokerOrderId t.symbol volume) = some d) :
    legPnL answers volume price t = d.total := by
  have hpoll : pollClosedDealProfit (fetchLegProfit t.brokerOrderId t.symbol volume) answers =
      some d.total := by
    have hmap := congrArg (Option.map HistoryDeal.total) h
    rw [map_findSome?] at hmap
    exact hmap
  rw [legPnL, hpoll]
  rfl

structure Paid (t : Trade) (s : Ladder) : Prop where
  id : s.trade.brokerOrderId = t.brokerOrderId
  symbol : s.trade.symbol = t.symbol
  pnl : ∀ k ∈ s.taken, ∀ d, k.paidBy t = some d → k.leg.pnl = d.total

theorem Paid.evaluate (h : Paid t s) (e : Evaluation) : Paid t (s.evaluate e) := by
  rcases s.evaluate_cases e with ⟨-, hsm⟩ | ⟨level, -, -, hev⟩
  · rw [hsm]
    exact h
  · rw [hev]
    obtain ⟨-, -, -, hid, hsym⟩ := record_plan (closedLeg e.draw level e.price s.trade) s.trade
    refine ⟨hid.trans h.id, hsym.trans h.symbol, forall_mem_cons.mpr ⟨?_, h.pnl⟩⟩
    intro d hd
    unfold TakenLeg.paidBy at hd
    rw [← h.id, ← h.symbol] at hd
    exact legPnL_of_paidBy hd

theorem paid_climb (a : Account) (evals : List Evaluation) :
    Paid a.trade (Ladder.climb a evals) := by
  have hsta : Paid a.trade { account := a } := ⟨rfl, rfl, by simp⟩
  unfold Ladder.climb
  generalize ({ account := a } : Ladder) = s at hsta
  induction evals generalizing s with
  | nil => exact hsta
  | cons e evals ih => exact ih (s.evaluate e) (hsta.evaluate e)

theorem paid_apart_iff_prompt (a : Account) (evals : List Evaluation) (opening : HistoryDeal)
    (hlisted : ∀ k ∈ (Ladder.climb a evals).taken, k.Listed a.trade)
    (hdeals : (opening :: (Ladder.climb a evals).taken.map TakenLeg.deal).Nodup) :
    PaidApart opening a.trade (Ladder.climb a evals).taken ↔
      ∀ k ∈ (Ladder.climb a evals).taken, k.Prompt a.trade := by
  have hpd := (paid_climb a evals).pnl
  generalize (Ladder.climb a evals).taken = taken at hlisted hdeals hpd
  constructor
  · intro h k hk
    exact (paidBy_iff_prompt (hlisted k hk)).mp (h.own k hk).1
  · intro h
    have hown : ∀ k ∈ taken, k.paidBy a.trade = some k.deal := fun k hk =>
      (paidBy_iff_prompt (hlisted k hk)).mpr (h k hk)
    have hmap : taken.map (fun k => k.paidBy a.trade) = (taken.map TakenLeg.deal).map some := by
      rw [map_map]
      exact map_congr_left hown
    obtain ⟨hn, hnd⟩ := nodup_cons.mp hdeals
    refine ⟨fun k hk => ⟨hown k hk, hpd k hk _ (hown k hk)⟩, ?_, ?_⟩
    · rw [hmap]
      exact hnd.map (Option.some_injective _)
    · rw [hmap, mem_map_of_injective (Option.some_injective _)]
      exact hn

def legsOpening : HistoryDeal := { legsDeal "1001" 0 with volume := 0.3, commission := -3 }

def firstTarget : Evaluation where
  draw := { answers := [some [legsOpening, legsDeal "2001" 20]] }
  price := 1.12
  deal := legsDeal "2001" 20

def secondTarget : Evaluation where
  draw :=
    { answers := [some [legsOpening, legsDeal "2001" 20],
        some [legsOpening, legsDeal "2001" 20, legsDeal "2002" 50]] }
  price := 1.14
  deal := legsDeal "2002" 50

theorem second_leg_paid_by_first :
    (∀ k ∈ (Ladder.climb legsStart [firstTarget, secondTarget]).taken, k.Listed legsTrade) ∧
      (Ladder.climb legsStart [firstTarget, secondTarget]).taken.map
          (fun k => (k.deal.total, k.paidBy legsTrade, k.leg.pnl)) =
        [(50, some (legsDeal "2001" 20), 20), (20, some (legsDeal "2001" 20), 20)] := by
  constructor <;> decide +kernel

theorem paid_apart_first_leg :
    PaidApart legsOpening legsTrade (Ladder.climb legsStart [firstTarget]).taken :=
  (paid_apart_iff_prompt legsStart [firstTarget] legsOpening (by decide +kernel)
    (by decide +kernel)).mpr (by decide +kernel)

end ETradie.Management
