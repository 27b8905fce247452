import ETradie.Execution.Models

/-!
# Matching a filled limit order to its position

`matchFilledPosition` takes the position that carries the order's analysis id, else the only
candidate of its symbol and side, else the one that is clearly nearest to the order's price.
-/

namespace ETradie.Execution

open List Option

structure Mt5Position where
  symbol : String
  type : Int
  priceOpen : ℚ
  (priceCurrent sl tp volume profit : ℚ := 0)
  ticket : Int
  comment : String := ""
deriving DecidableEq

def Mt5Position.side (p : Mt5Position) : String := if p.type = 1 then "SELL" else "BUY"

def Mt5Position.position (p : Mt5Position) : BrokerEntry where
  symbol := p.symbol
  direction := p.side
  entryPrice := p.priceOpen
  currentPrice := p.priceCurrent
  stopLoss := p.sl
  takeProfit := p.tp
  lotSize := p.volume
  unrealizedPnL := p.profit
  orderId := toString p.ticket
  analysisId := p.comment

variable (reply : Except String (List Mt5Position))

def getPositions : Except String (List BrokerEntry) :=
  match reply with
  | .error e => .error ("get positions: " ++ e)
  | .ok positions => .ok (positions.map Mt5Position.position)

structure PriceAnchor where
  best : Option BrokerEntry := none
  (bestDist secondDist : ℚ := 0)

variable (orderEntryPrice : ℚ)

def PriceAnchor.take (a : PriceAnchor) (c : BrokerEntry) : PriceAnchor :=
  let d := |c.entryPrice - orderEntryPrice|
  if a.best = none ∨ d < a.bestDist then
    { best := some c, bestDist := d, secondDist := a.bestDist }
  else if a.secondDist = 0 ∨ d < a.secondDist then { a with secondDist := d }
  else a

def nearestCandidate (candidates : List BrokerEntry) : Option BrokerEntry :=
  let a := candidates.foldl (PriceAnchor.take orderEntryPrice) {}
  if a.secondDist = 0 ∨ 2 * a.bestDist ≤ a.secondDist then a.best else none

variable (positions : List BrokerEntry) (symbol : String)

def matchFilledPosition (direction analysisID : String)
    (orderEntryPrice : ℚ) : Option BrokerEntry :=
  let byID :=
    if analysisID = "" then none
    else positions.find? (·.analysisId = analysisID)
  match byID with
  | some p => some p
  | none =>
    match positions.filter (fun p => p.symbol = symbol ∧ p.direction = direction) with
    | [] => none
    | [p] => some p
    | candidates =>
      if 0 < orderEntryPrice then nearestCandidate orderEntryPrice candidates else none

structure FillHandoff where
  order : Order
  (fillPrice slippage : ℚ)
deriving DecidableEq

def checkLimitFillAndHandoff (order : Order) :
    Option FillHandoff :=
  match getPositions reply with
  | .error _ => none
  | .ok positions =>
    (matchFilledPosition positions order.symbol order.direction order.analysisId
      order.entryPrice).map (fun p =>
        { order := { order with brokerOrderId := p.orderId }, fillPrice := p.entryPrice
          slippage := if 0 < order.entryPrice then p.entryPrice - order.entryPrice else 0 })

variable {direction : Direction}

theorem side_ne_direction (hdir : direction = directionLong ∨ direction = directionShort)
    (p : Mt5Position) : p.side ≠ direction := by
  unfold Mt5Position.side
  rcases hdir with hlg | hsho
  · subst hlg
    split_ifs <;> decide
  · subst hsho
    split_ifs <;> decide

theorem no_candidates (hdir : direction = directionLong ∨ direction = directionShort)
    (symbol : String) (raw : List Mt5Position) :
    (raw.map Mt5Position.position).filter
      (fun p => p.symbol = symbol ∧ p.direction = direction) = [] := by
  rw [filter_eq_nil_iff]
  intro p hp
  obtain ⟨q, _, rfl⟩ := mem_map.mp hp
  have hsi := side_ne_direction hdir q
  simp only [decide_eq_true_eq, not_and]
  intro _
  exact hsi

theorem matchFilledPosition_bridge (hdir : direction = directionLong ∨ direction = directionShort)
    (raw : List Mt5Position) (symbol analysisID : String) (orderEntryPrice : ℚ) :
    matchFilledPosition (raw.map Mt5Position.position) symbol direction analysisID
        orderEntryPrice =
      if analysisID = "" then none
      else (raw.find? (·.comment = analysisID)).map Mt5Position.position := by
  have hf : (raw.map Mt5Position.position).find? (·.analysisId = analysisID) =
      (raw.find? (·.comment = analysisID)).map Mt5Position.position := by
    rw [find?_map]
    rfl
  unfold matchFilledPosition
  rw [no_candidates hdir, hf]
  by_cases hid : analysisID = ""
  · rw [if_pos hid]
  · rw [if_neg hid]
    cases raw.find? (·.comment = analysisID) <;> rfl

def FillHandoff.of (order : Order) (p : Mt5Position) : FillHandoff where
  order := { order with brokerOrderId := p.position.orderId }
  fillPrice := p.priceOpen
  slippage := if 0 < order.entryPrice then p.priceOpen - order.entryPrice else 0

theorem checkLimitFillAndHandoff_bridge {order : Order}
    (hdir : order.direction = directionLong ∨ order.direction = directionShort)
    (raw : List Mt5Position) :
    checkLimitFillAndHandoff (.ok raw) order =
      if order.analysisId = "" then none
      else (raw.find? (·.comment = order.analysisId)).map (FillHandoff.of order) := by
  simp only [checkLimitFillAndHandoff, getPositions, matchFilledPosition_bridge hdir]
  by_cases hid : order.analysisId = ""
  · rw [if_pos hid, if_pos hid]
    rfl
  · rw [if_neg hid, if_neg hid, Option.map_map]
    rfl

theorem fill_found_iff {order : Order} {raw : List Mt5Position} {p : Mt5Position}
    (hdir : order.direction = directionLong ∨ order.direction = directionShort) (honly : raw.filter
      (fun q => q.symbol = order.symbol ∧ q.side = brokerDirection order.direction) = [p])
    (hothers : ∀ q ∈ raw, q ≠ p → q.comment = "" ∨ q.comment ≠ order.analysisId) :
    checkLimitFillAndHandoff (.ok raw) order = some (FillHandoff.of order p) ↔
      order.analysisId ≠ "" ∧ p.comment = order.analysisId := by
  have hm : p ∈ raw := by
    have hp : p ∈ raw.filter
        (fun q => q.symbol = order.symbol ∧ q.side = brokerDirection order.direction) := by
      rw [honly]
      exact mem_singleton_self p
    exact mem_of_mem_filter hp
  rw [checkLimitFillAndHandoff_bridge hdir]
  constructor
  · intro hfnd
    by_cases hid : order.analysisId = ""
    · rw [if_pos hid] at hfnd
      cases hfnd
    · rw [if_neg hid, map_eq_some_iff] at hfnd
      obtain ⟨q, hq, -⟩ := hfnd
      have hcom : q.comment = order.analysisId := by simpa using find?_some hq
      by_cases hqp : q = p
      · subst hqp
        exact ⟨hid, hcom⟩
      · rcases hothers q (mem_of_find?_eq_some hq) hqp with hemp | hoth
        · exact absurd (hcom.symm.trans hemp) hid
        · exact absurd hcom hoth
  · rintro ⟨hid, hcom⟩
    rw [if_neg hid]
    have hso : (raw.find? (fun q => q.comment = order.analysisId)).isSome = true := by
      rw [find?_isSome]
      exact ⟨p, hm, by simpa using hcom⟩
    obtain ⟨q, hq⟩ := isSome_iff_exists.mp hso
    have hqco : q.comment = order.analysisId := by simpa using find?_some hq
    have hqp : q = p := by
      by_contra hne
      rcases hothers q (mem_of_find?_eq_some hq) hne with hemp | hoth
      · exact hid (hqco.symm.trans hemp)
      · exact hoth hqco
    rw [hq, hqp]
    rfl

def restingOrder : Order where
  orderId := "ORD_EURUSD_1"
  symbol := "EURUSD"
  direction := directionLong
  executionMode := .limit
  entryPrice := 11 / 10
  stopLoss := 1.09
  lotSize := 1
  analysisId := "analysis-7"
  brokerOrderId := "70"

def filledPurchase (comment : String) : Mt5Position where
  symbol := "EURUSD"
  type := 0
  priceOpen := 11 / 10
  ticket := 71
  comment := comment

def foreignSale : Mt5Position where
  symbol := "EURUSD"
  type := 1
  priceOpen := 11 / 10
  ticket := 70
  comment := "analysis-6"

theorem fill_found_with_comment :
    checkLimitFillAndHandoff (.ok [foreignSale, filledPurchase "analysis-7"]) restingOrder =
      some (FillHandoff.of restingOrder (filledPurchase "analysis-7")) := by
  refine (fill_found_iff (.inl rfl) (by decide +kernel) ?_).mpr (by decide)
  intro q hq hne
  rcases mem_pair.mp hq with rfl | hq
  · exact .inr (by decide)
  · exact absurd hq hne

theorem fill_missed_without_comment :
    [filledPurchase ""].filter (fun q => q.symbol = restingOrder.symbol ∧
        q.side = brokerDirection restingOrder.direction) = [filledPurchase ""] ∧
      checkLimitFillAndHandoff (.ok [filledPurchase ""]) restingOrder = none := by
  decide +kernel

variable {a : PriceAnchor} {q : BrokerEntry}

section Attribution

variable {price : ℚ} {p : BrokerEntry} {l l' : List BrokerEntry}

def entryDistance (price : ℚ) (p : BrokerEntry) : ℚ :=
  |p.entryPrice - price|

def ClearlyNearest (price : ℚ) (l : List BrokerEntry) (p : BrokerEntry) : Prop :=
  ∃ rest, l.Perm (p :: rest) ∧ ∀ q ∈ rest,
    entryDistance price p < entryDistance price q ∧
      2 * entryDistance price p ≤ entryDistance price q

def Anchored (price : ℚ) (l : List BrokerEntry) (a : PriceAnchor) : Prop :=
  ∃ p rest, l.Perm (p :: rest) ∧ a.best = some p ∧ a.bestDist = entryDistance price p ∧
    (∀ q ∈ rest, entryDistance price p ≤ entryDistance price q) ∧
    (rest = [] ∧ a.secondDist = 0 ∨
      (∃ q ∈ rest, entryDistance price q = a.secondDist) ∧
        ∀ q ∈ rest, a.secondDist ≤ entryDistance price q)

def OneExact (price : ℚ) (l : List BrokerEntry) : Prop :=
  l.Pairwise (fun p q => entryDistance price p ≠ 0 ∨ entryDistance price q ≠ 0)

theorem OneExact.perm (h : OneExact price l) (hpm : l.Perm l') : OneExact price l' :=
  hpm.pairwise h fun hpq => hpq.symm

theorem ClearlyNearest.oneExact (h : ClearlyNearest price l p) : OneExact price l := by
  obtain ⟨rest, hpm, hclear⟩ := h
  have hfar : ∀ q ∈ rest, entryDistance price q ≠ 0 := fun q hq =>
    ((abs_nonneg _).trans_lt (hclear q hq).1).ne'
  refine OneExact.perm ?_ hpm.symm
  refine pairwise_cons.mpr ⟨fun q hq => .inr (hfar q hq), ?_⟩
  exact (pairwise_of_forall_mem_list (fun q hq _ _ => .inl (hfar q hq)))

theorem OneExact.second_pos (h : OneExact price (p :: l))
    (hnear : ∀ q ∈ l, entryDistance price p ≤ entryDistance price q) :
    ∀ q ∈ l, 0 < entryDistance price q := by
  intro q hq
  refine lt_of_le_of_ne (abs_nonneg _) fun hz => ?_
  have hp : entryDistance price p = 0 := le_antisymm (hz ▸ hnear q hq) (abs_nonneg _)
  rcases rel_of_pairwise_cons h hq with hne | hne
  · exact hne hp
  · exact hne hz.symm

theorem anchored_take (hexact : OneExact price (p :: l))
    (h : Anchored price l a) : Anchored price (p :: l) (a.take price p) := by
  obtain ⟨b, rest, hpm, hbs, hdi, hnear, hsnd⟩ := h
  have hpos := OneExact.second_pos (OneExact.perm (pairwise_cons.mp hexact).2 hpm) hnear
  unfold PriceAnchor.take
  rw [hbs, hdi]
  by_cases hlt : entryDistance price p < entryDistance price b
  · rw [if_pos (.inr hlt)]
    refine ⟨p, b :: rest, hpm.cons p, rfl, rfl, ?_, .inr ⟨⟨b, mem_cons_self, rfl⟩, ?_⟩⟩
    · exact forall_mem_cons.mpr ⟨hlt.le, fun q hq => hlt.le.trans (hnear q hq)⟩
    · exact forall_mem_cons.mpr ⟨le_rfl, hnear⟩
  · have hle := not_lt.mp hlt
    have hpm' : (p :: l).Perm (b :: p :: rest) := (hpm.cons p).trans (.swap b p rest)
    have hnear' : ∀ q ∈ p :: rest, entryDistance price b ≤ entryDistance price q :=
      forall_mem_cons.mpr ⟨hle, hnear⟩
    rw [entryDistance] at hlt
    rw [if_neg (by simpa using hlt)]
    split
    next hupd =>
      -- no second entry yet, or this one is nearer than the second
      refine ⟨b, p :: rest, hpm', rfl, rfl, hnear', .inr ⟨⟨p, mem_cons_self, rfl⟩, ?_⟩⟩
      refine forall_mem_cons.mpr ⟨le_rfl, fun q hq => ?_⟩
      rcases hsnd with ⟨rfl, -⟩ | ⟨⟨r, hr, hdr⟩, hmin⟩
      · cases hq
      · exact (hupd.resolve_left (hdr ▸ (hpos r hr).ne')).le.trans (hmin q hq)
    next hke =>
      obtain ⟨hz, hfar⟩ := not_or.mp hke
      refine ⟨b, p :: rest, hpm', hbs, hdi, hnear', .inr ?_⟩
      rcases hsnd with ⟨-, huns⟩ | ⟨⟨r, hr, hdr⟩, hmin⟩
      · exact absurd huns hz
      · exact ⟨⟨r, mem_cons_of_mem p hr, hdr⟩, forall_mem_cons.mpr ⟨not_lt.mp hfar, hmin⟩⟩

theorem anchored_foldl {seen : List BrokerEntry}
    (hexact : OneExact price (l ++ seen)) (h : Anchored price seen a) :
    Anchored price (l ++ seen) (l.foldl (PriceAnchor.take price) a) := by
  induction l generalizing a seen with
  | nil => exact h
  | cons p l ih =>
    have hpm : (p :: l ++ seen).Perm (l ++ p :: seen) := perm_middle.symm
    have hexact' := OneExact.perm hexact hpm
    have hrun := ih hexact' (anchored_take (hexact'.sublist (sublist_append_right l _)) h)
    obtain ⟨b, rest, hb, hrs⟩ := hrun
    exact ⟨b, rest, hpm.trans hb, hrs⟩

theorem ClearlyNearest.eq {b : BrokerEntry} {rest : List BrokerEntry} (h : ClearlyNearest price l p)
    (hpm : l.Perm (b :: rest))
    (hnear : ∀ q ∈ rest, entryDistance price b ≤ entryDistance price q) : p = b := by
  obtain ⟨rest', hpm', hclr⟩ := h
  have hsm := hpm'.symm.trans hpm
  rcases mem_cons.mp (hsm.mem_iff.mp mem_cons_self) with hpb | hp
  · exact hpb
  · rcases mem_cons.mp (hsm.mem_iff.mpr mem_cons_self) with hbp | hb
    · exact hbp.symm
    · exact absurd (hclr b hb).1 (not_lt.mpr (hnear p hp))

theorem nearestCandidate_eq_some_iff (hexact : OneExact price (p :: q :: l)) {r : BrokerEntry} :
    nearestCandidate price (p :: q :: l) = some r ↔ ClearlyNearest price (p :: q :: l) r := by
  have hfst : Anchored price [p] (PriceAnchor.take price {} p) :=
    ⟨p, [], .refl _, rfl, rfl, by simp, .inl ⟨rfl, rfl⟩⟩
  have hpm : (p :: q :: l).Perm (q :: l ++ [p]) := (perm_append_singleton p (q :: l)).symm
  obtain ⟨b, rest, hb, hbs, hdi, hnear, hsnd⟩ := anchored_foldl (OneExact.perm hexact hpm) hfst
  replace hb := hpm.trans hb
  have hpos := OneExact.second_pos (OneExact.perm hexact hb) hnear
  obtain ⟨⟨c, hc, hdc⟩, hmin⟩ := hsnd.resolve_left fun h => by
    have hlen := hb.length_eq
    simp [h.1] at hlen
  unfold nearestCandidate
  dsimp only [foldl_cons] at hbs hdi hdc hmin ⊢
  rw [hbs, hdi, ← hdc]
  by_cases hfar : 2 * entryDistance price b ≤ entryDistance price c
  · rw [if_pos (.inr hfar), Option.some.injEq]
    constructor
    · rintro rfl
      refine ⟨rest, hb, fun x hx => ?_⟩
      have htwi : 2 * entryDistance price b ≤ entryDistance price x := hfar.trans (hdc ▸ hmin x hx)
      refine ⟨?_, htwi⟩
      linarith [hpos x hx]
    · intro hclr
      exact (hclr.eq hb hnear).symm
  · rw [if_neg (by simp [(hpos c hc).ne', hfar])]
    refine iff_of_false (by simp) fun hclr => hfar ?_
    obtain rfl := hclr.eq hb hnear
    obtain ⟨rest', hpm', hall⟩ := hclr
    exact (hall c ((hpm'.symm.trans hb).cons_inv.mem_iff.mpr hc)).2

theorem nearestCandidate_perm {q' p' : BrokerEntry} (hexact : OneExact price (p :: q :: l))
    (hpm : (p :: q :: l).Perm (p' :: q' :: l')) :
    nearestCandidate price (p' :: q' :: l') = nearestCandidate price (p :: q :: l) := by
  refine Option.ext fun r => ?_
  rw [nearestCandidate_eq_some_iff hexact, nearestCandidate_eq_some_iff (hexact.perm hpm)]
  exact ⟨fun ⟨rest, h, hr⟩ => ⟨rest, hpm.trans h, hr⟩,
    fun ⟨rest, h, hr⟩ => ⟨rest, hpm.symm.trans h, hr⟩⟩

def fillCandidates (direction : String) : List BrokerEntry :=
  positions.filter (fun p => p.symbol = symbol ∧ p.direction = direction)

def carrying (analysisID : String) : List BrokerEntry :=
  positions.filter (·.analysisId = analysisID)

def Attributed (direction analysisID : String) (price : ℚ)
    (p : BrokerEntry) : Prop :=
  (analysisID ≠ "" ∧ p.analysisId = analysisID) ∨ fillCandidates positions symbol direction = [p] ∨
    ClearlyNearest price (fillCandidates positions symbol direction) p

def candidateMatch (price : ℚ) (candidates : List BrokerEntry) : Option BrokerEntry :=
  match candidates with
  | [] => none
  | [p] => some p
  | candidates => if 0 < price then nearestCandidate price candidates else none

theorem matchFilledPosition_eq (direction analysisID : String) (price : ℚ) :
    matchFilledPosition positions symbol direction analysisID price =
      (if analysisID = "" then none else (carrying positions analysisID).head?).or
        (candidateMatch price (fillCandidates positions symbol direction)) := by
  unfold matchFilledPosition carrying
  rw [head?_filter]
  dsimp only
  split
  next hfnd => rw [hfnd, some_or]
  next hno =>
    rw [hno]
    rfl

theorem eq_of_perm_short {α : Type} {l l' : List α} (h : l.Perm l') (hsho : l.length ≤ 1) :
    l' = l := by
  match l, hsho with
  | [], _ => exact nil_perm.mp h
  | [a], _ => exact (singleton_perm.mp h).symm

theorem candidateMatch_perm (hexact : 0 < price → OneExact price l) (h : l.Perm l') :
    candidateMatch price l' = candidateMatch price l := by
  match l, l', h.length_eq with
  | [], l', _ | [p], l', _ => rw [eq_of_perm_short h (by simp)]
  | p :: q :: l, p' :: q' :: l', _ =>
    simp only [candidateMatch]
    split
    next hprice => exact nearestCandidate_perm (hexact hprice) h
    next => rfl

theorem candidateMatch_eq_some_iff (hexact : 0 < price → OneExact price l) :
    candidateMatch price l = some p ↔ l = [p] ∨ 0 < price ∧ ClearlyNearest price l p := by
  match l with
  | [] =>
    refine iff_of_false (by simp [candidateMatch]) ?_
    rintro (h | ⟨-, rest, hpm, -⟩)
    · cases h
    · simpa using hpm.length_eq
  | [q] =>
    refine ⟨fun h => .inl (by cases h; rfl), ?_⟩
    rintro (h | ⟨-, rest, hpm, -⟩)
    · cases h
      rfl
    · cases singleton_perm.mp hpm
      rfl
  | q :: r :: l =>
    simp only [candidateMatch]
    split
    next hprice => simp [hprice, nearestCandidate_eq_some_iff (hexact hprice)]
    next hprice => simp [hprice]

theorem foldl_take_best {b : BrokerEntry} (hbest : a.best = some b)
    (hdist : a.bestDist = entryDistance price b) (hsecond : 0 ≤ a.secondDist) :
    let a' := l.foldl (PriceAnchor.take price) a
    ∃ b' ∈ b :: l, a'.best = some b' ∧ a'.bestDist = entryDistance price b' ∧
      0 ≤ a'.secondDist ∧ ∀ q ∈ b :: l, entryDistance price b' ≤ entryDistance price q := by
  induction l generalizing a b with
  | nil => exact ⟨b, mem_cons_self, hbest, hdist, hsecond, by simp⟩
  | cons c l ih =>
    have hdistance : ∀ q, 0 ≤ entryDistance price q := fun q => abs_nonneg _
    rw [foldl_cons]
    by_cases hnearer : entryDistance price c < a.bestDist
    · have htake : a.take price c =
          { best := some c, bestDist := entryDistance price c, secondDist := a.bestDist } :=
        if_pos (.inr hnearer)
      obtain ⟨b', hmem, hb', hd', hs', hmin⟩ := ih (a := a.take price c) (b := c)
        (by rw [htake]) (by rw [htake]) (by rw [htake, hdist]; exact hdistance b)
      refine ⟨b', mem_cons_of_mem b hmem, hb', hd', hs', forall_mem_cons.mpr ⟨?_, hmin⟩⟩
      exact (hmin c mem_cons_self).trans (hdist ▸ hnearer.le)
    · have hkept : (a.take price c).best = a.best ∧ (a.take price c).bestDist = a.bestDist ∧
          0 ≤ (a.take price c).secondDist := by
        unfold PriceAnchor.take
        rw [if_neg (by simpa [hbest, entryDistance] using hnearer)]
        split
        · exact ⟨rfl, rfl, hdistance c⟩
        · exact ⟨rfl, rfl, hsecond⟩
      obtain ⟨b', hmem, hb', hd', hs', hmin⟩ := ih (a := a.take price c) (b := b)
        (hkept.1.trans hbest) (hkept.2.1.trans hdist) hkept.2.2
      obtain ⟨hmin, hrest⟩ := forall_mem_cons.mp hmin
      refine ⟨b', ?_, hb', hd', hs', forall_mem_cons.mpr ⟨hmin, forall_mem_cons.mpr ⟨?_, hrest⟩⟩⟩
      · rcases mem_cons.mp hmem with rfl | hmem
        · exact mem_cons_self
        · exact mem_cons_of_mem _ (mem_cons_of_mem _ hmem)
      · exact hmin.trans (hdist ▸ not_lt.mp hnearer)

theorem candidateMatch_of_not_oneExact (hprice : 0 < price) (h : ¬ OneExact price l) :
    ∃ b ∈ l, candidateMatch price l = some b ∧ l ≠ [b] := by
  match l with
  | [] => exact absurd Pairwise.nil h
  | [p] => exact absurd (pairwise_singleton _ p) h
  | p :: q :: l =>
    obtain ⟨b, hb, hbest, hdist, hsecond, hmin⟩ := foldl_take_best
      (a := PriceAnchor.take price {} p) (b := p) (l := q :: l) rfl rfl le_rfl
    have hzero : entryDistance price b = 0 := by
      by_contra hne
      refine h (pairwise_of_forall_mem_list fun r hr _ _ => .inl ?_)
      exact (((abs_nonneg _).lt_of_ne' hne).trans_le (hmin r hr)).ne'
    refine ⟨b, hb, ?_, by simp⟩
    refine (if_pos hprice).trans ((if_pos (.inr ?_)).trans hbest)
    exact (mul_eq_zero_of_right 2 (hdist.trans hzero)).trans_le hsecond

/-- The order's id decides where some position carries it; otherwise at most one candidate is
exactly at the price, and the one that is singled out carries no id. -/
def Distinguished (direction analysisID : String)
    (price : ℚ) : Prop :=
  if analysisID ≠ "" ∧ carrying positions analysisID ≠ [] then
    ∀ p ∈ carrying positions analysisID, ∀ q ∈ carrying positions analysisID, p = q
  else
    (0 < price → OneExact price (fillCandidates positions symbol direction)) ∧
      ∀ p, (fillCandidates positions symbol direction = [p] ∨
        0 < price ∧ ClearlyNearest price (fillCandidates positions symbol direction) p) →
          p.analysisId = ""

/-- The attribution is sound and does not depend on the order of the list iff the positions
distinguish the fill. -/
theorem matchFilledPosition_unambiguous (positions : List BrokerEntry)
    (symbol direction analysisID : String) (price : ℚ) :
    ((∀ p, matchFilledPosition positions symbol direction analysisID price = some p →
        Attributed positions symbol direction analysisID price p ∧
          (p.analysisId = "" ∨ p.analysisId = analysisID)) ∧
      ∀ positions', positions.Perm positions' →
        matchFilledPosition positions' symbol direction analysisID price =
          matchFilledPosition positions symbol direction analysisID price) ↔
      Distinguished positions symbol direction analysisID price := by
  unfold Distinguished
  split
  next hcarried =>
    obtain ⟨hid, hsome⟩ := hcarried
    have hhead : ∀ ps, positions.Perm ps → ∃ p rest, carrying ps analysisID = p :: rest ∧
        matchFilledPosition ps symbol direction analysisID price = some p := by
      intro ps hps
      have hne : carrying ps analysisID ≠ [] := fun hnil => hsome ((hps.filter _).trans
        (.of_eq hnil)).eq_nil
      obtain ⟨p, rest, hcons⟩ := exists_cons_of_ne_nil hne
      refine ⟨p, rest, hcons, ?_⟩
      rw [matchFilledPosition_eq, if_neg hid, hcons]
      rfl
    constructor
    · rintro ⟨-, hperm⟩
      have hfirst : ∀ p ∈ carrying positions analysisID,
          matchFilledPosition positions symbol direction analysisID price = some p := by
        intro p hp
        obtain ⟨hmem, hown⟩ := mem_filter.mp hp
        have hfront := perm_cons_erase hmem
        obtain ⟨q, rest, hcons, hmatch⟩ := hhead _ hfront
        rw [carrying, filter_cons, if_pos hown] at hcons
        cases hcons
        exact (hperm _ hfront).symm.trans hmatch
      intro p hp q hq
      exact Option.some.inj ((hfirst p hp).symm.trans (hfirst q hq))
    · intro hall
      constructor
      · intro p hp
        obtain ⟨q, rest, hcons, hmatch⟩ := hhead _ (.refl _)
        cases hmatch.symm.trans hp
        have hown : p ∈ carrying positions analysisID := hcons ▸ mem_cons_self
        have hown : p.analysisId = analysisID := by simpa using (mem_filter.mp hown).2
        exact ⟨.inl ⟨hid, hown⟩, .inr hown⟩
      · intro ps hps
        obtain ⟨p, rest, hcons, hmatch⟩ := hhead _ (.refl _)
        obtain ⟨q, rest', hcons', hmatch'⟩ := hhead ps hps
        have hq : q ∈ carrying ps analysisID := hcons' ▸ mem_cons_self
        have hq : q ∈ carrying positions analysisID := (hps.filter _).mem_iff.mpr hq
        rw [hmatch, hmatch', hall q hq p (hcons ▸ mem_cons_self)]
  next hfree =>
    have hcand : ∀ ps, positions.Perm ps →
        matchFilledPosition ps symbol direction analysisID price =
          candidateMatch price (fillCandidates ps symbol direction) := by
      intro ps hps
      rw [matchFilledPosition_eq]
      split
      next => rfl
      next hid =>
        have hnil : carrying ps analysisID = [] := by
          by_contra hne
          exact hfree ⟨hid, fun h => hne ((hps.filter _).symm.trans (.of_eq h)).eq_nil⟩
        rw [hnil]
        rfl
    have hnone : ∀ p ∈ fillCandidates positions symbol direction,
        p.analysisId = analysisID → analysisID = "" := by
      intro p hp hown
      by_contra hid
      refine hfree ⟨hid, ne_nil_of_mem (a := p) ?_⟩
      exact mem_filter.mpr ⟨mem_of_mem_filter hp, by simpa using hown⟩
    simp only [hcand _ (.refl _)]
    constructor
    · rintro ⟨hattributed, -⟩
      have hexact : 0 < price → OneExact price (fillCandidates positions symbol direction) := by
        intro hprice
        by_contra hno
        obtain ⟨b, hb, hmatch, hmany⟩ := candidateMatch_of_not_oneExact hprice hno
        rcases (hattributed b hmatch).1 with ⟨hid, hown⟩ | honly | hclear
        · exact hid (hnone b hb hown)
        · exact hmany honly
        · exact hno hclear.oneExact
      refine ⟨hexact, fun p hp => ?_⟩
      have hmatch := (candidateMatch_eq_some_iff hexact).mpr hp
      rcases (hattributed p hmatch).2 with hplain | hown
      · exact hplain
      · refine hown.trans (hnone p ?_ hown)
        rcases hp with honly | ⟨-, rest, hpm, -⟩
        · rw [honly]
          exact mem_singleton_self p
        · exact hpm.mem_iff.mpr mem_cons_self
    · rintro ⟨hexact, hplain⟩
      constructor
      · intro p hp
        have hnearest := (candidateMatch_eq_some_iff hexact).mp hp
        exact ⟨.inr (hnearest.imp_right And.right), .inl (hplain p hnearest)⟩
      · intro ps hps
        rw [hcand ps hps]
        exact candidateMatch_perm hexact (hps.filter _)

end Attribution

def purchaseAt (ticket analysisID : String) (entryPrice : ℚ) : BrokerEntry where
  symbol := "EURUSD"
  orderId := ticket
  direction := "BUY"
  entryPrice := entryPrice
  analysisId := analysisID

theorem fill_taken_ambiguously :
    (matchFilledPosition [purchaseAt "1" "" 1.1, purchaseAt "2" "" 1.1] "EURUSD" "BUY" "a7" 1.1,
        matchFilledPosition [purchaseAt "2" "" 1.1, purchaseAt "1" "" 1.1] "EURUSD" "BUY" "a7" 1.1,
        matchFilledPosition [purchaseAt "3" "a9" 1.3] "EURUSD" "BUY" "a7" 1.1) =
      (some (purchaseAt "1" "" 1.1), some (purchaseAt "2" "" 1.1),
        some (purchaseAt "3" "a9" 1.3)) := by
  decide +kernel

end ETradie.Execution
