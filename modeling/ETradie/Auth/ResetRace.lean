import ETradie.Auth.PasswordReset

namespace ETradie.Auth

open Kernel List ResetEvent Keyed

variable {userId : String} {r : PasswordReset} {e : ResetEvent}

namespace ResetServer

variable {hash : String → String} {duration : Int → String}

section Invariant

def Unopposed (hash : String → String) (t : ResetTable) (x : ResetTx) : Prop :=
  ∀ r ∈ t.rows, r.id ≠ x.id ∧ r.tokenHash ≠ hash x.req.plaintextToken ∧
    (r.userId = x.req.userID → r.consumed = false → r.id ∈ x.revoked)

def Stored (hash : String → String) (t : ResetTable) (userId token : String) : Prop :=
  ∃ r ∈ t.rows, r.userId = userId ∧ r.tokenHash = hash token

def Spent (hash : String → String) (t : ResetTable) (token : String) : Prop :=
  ∃ r ∈ t.rows, r.tokenHash = hash token ∧ r.consumed = true

def Grows (t t' : ResetTable) : Prop :=
  ∀ r ∈ t.rows, ∃ r' ∈ t'.rows, r'.userId = r.userId ∧ r'.tokenHash = r.tokenHash ∧
    (r.consumed = true → r'.consumed = true)

variable {t t' : ResetTable} {x y : ResetTx} {token : String}

theorem not_conflicts_view_iff :
    conflicts (x.row hash) (x.view t) = false ↔ Unopposed hash t x := by
  rw [not_conflicts_iff]
  constructor
  · intro h r hr
    have hvw := h _ (mem_spendIds.mpr ⟨r, hr, rfl⟩)
    by_cases hmkd : r.id ∈ x.revoked
    · simp only [if_pos hmkd] at hvw
      exact ⟨hvw.1, hvw.2.1, fun _ _ => hmkd⟩
    · simp only [if_neg hmkd] at hvw
      refine ⟨hvw.1, hvw.2.1, ?_⟩
      intro hu hlv
      exact absurd (hvw.2.2 hu) (by simp [hlv])
  · intro h _ hr'
    obtain ⟨r, hr, rfl⟩ := mem_spendIds.mp hr'
    obtain ⟨hid, hhs, hlv⟩ := h r hr
    split
    · exact ⟨hid, hhs, fun _ => rfl⟩
    · next hunm =>
      refine ⟨hid, hhs, ?_⟩
      intro hu
      by_contra hcon
      exact hunm (hlv hu (by simpa using hcon))

theorem marks_view : Marks t (x.view t) := marks_updateWhere _ x.now t

theorem Unopposed.marks (h : Unopposed hash t x) (hmar : Marks t t') : Unopposed hash t' x := by
  intro r' hr'
  obtain ⟨r, hr, hm⟩ := hmar.back r' hr'
  obtain ⟨hid, -, hhs, hsm, -⟩ := spent_or_same hm
  obtain ⟨hid', hhs', hlv⟩ := h r hr
  refine ⟨hid ▸ hid', hhs ▸ hhs', ?_⟩
  intro hu hunc
  obtain rfl := hsm hunc
  exact hlv hu hunc

theorem Unopposed.committed (h : Unopposed hash t x) (hapa : x.rivals hash y = false) :
    Unopposed hash (y.committed hash t) x := by
  simp only [ResetTx.rivals, Bool.or_eq_false_iff, decide_eq_false_iff_not] at hapa
  obtain ⟨⟨hu, hhs⟩, hid⟩ := hapa
  intro r hr
  rcases mem_put.mp hr with rfl | ⟨hm, -⟩
  · exact ⟨fun heq => hid heq.symm, fun heq => hhs heq.symm, fun heq => absurd heq.symm hu⟩
  · exact h.marks marks_view r hm

theorem grows_of_marks (h : Marks t t') : Grows t t' := by
  intro r hr
  obtain ⟨r', hr', hm⟩ := h.forth r hr
  obtain ⟨-, hu, hhs, -, hcon⟩ := spent_or_same hm
  exact ⟨r', hr', hu, hhs, hcon⟩

theorem grows_committed (h : Unopposed hash t x) : Grows t (x.committed hash t) := by
  intro r hr
  obtain ⟨r', hr', hm⟩ := (marks_view).forth r hr
  obtain ⟨hid, hu, hhs, -, hcon⟩ := spent_or_same hm
  have hoth : r'.id ≠ (x.row hash).id := hid ▸ (h r hr).1
  exact ⟨r', mem_put.mpr (.inr ⟨hr', hoth⟩), hu, hhs, hcon⟩

theorem Stored.grows (h : Stored hash t userId token) (hgro : Grows t t') :
    Stored hash t' userId token := by
  obtain ⟨r, hr, hu, hhs⟩ := h
  obtain ⟨r', hr', hu', hhs', -⟩ := hgro r hr
  exact ⟨r', hr', hu'.trans hu, hhs'.trans hhs⟩

theorem Spent.grows (h : Spent hash t token) (hgro : Grows t t') : Spent hash t' token := by
  obtain ⟨r, hr, hhs, hcon⟩ := h
  obtain ⟨r', hr', -, hhs', hcon'⟩ := hgro r hr
  exact ⟨r', hr', hhs'.trans hhs, hcon' hcon⟩

theorem spent_of_committed (h : Unopposed hash t x) (hsto : Stored hash t x.req.userID token) :
    Spent hash (x.committed hash t) token := by
  obtain ⟨r, hr, hu, hhs⟩ := hsto
  have hoth : r.id ≠ (x.row hash).id := (h r hr).1
  have hvw : (if r.id ∈ x.revoked then r.spent x.now else r) ∈ (x.view t).rows :=
    mem_spendIds.mpr ⟨r, hr, rfl⟩
  by_cases hmkd : r.id ∈ x.revoked
  · rw [if_pos hmkd] at hvw
    exact ⟨r.spent x.now, mem_put.mpr (.inr ⟨hvw, hoth⟩), hhs, rfl⟩
  · rw [if_neg hmkd] at hvw
    refine ⟨r, mem_put.mpr (.inr ⟨hvw, hoth⟩), hhs, ?_⟩
    by_contra hcon
    exact hmkd ((h r hr).2.2 hu (by simpa using hcon))

theorem not_spent_of_redeemable {now : Int} (h : Constrained t)
    (hr : r ∈ t.rows) (htkn : r.redeemable (hash token) now) : ¬ Spent hash t token := by
  rintro ⟨r', hr', hhs, hcon⟩
  obtain ⟨hhs', hlv, -⟩ := PasswordReset.redeemable_iff.mp htkn
  have hsm : r = r' := h.tokenHash_unique r hr r' hr' (hhs'.trans hhs.symm)
  rw [hsm, hcon] at hlv
  cases hlv

structure Kept (hash : String → String) (initial : ResetTable) (s : ResetServer) : Prop where
  constrained : Constrained s.table
  unopposed : ∀ x ∈ s.txs.rows, x.phase = .inserted → Unopposed hash s.table x
  apart : ∀ x ∈ s.txs.rows, ∀ y ∈ s.txs.rows, x.phase = .inserted → y.phase = .inserted →
    x.caller ≠ y.caller → x.rivals hash y = false
  stored : ∀ userId token, CreatedFor hash initial s.history userId token →
    Stored hash s.table userId token
  spent : ∀ token ∈ s.history.filterMap ResetEvent.returnedToken, Spent hash s.table token
  once : (s.history.filterMap ResetEvent.returnedToken).Nodup
  superseded : ∀ newer e older req, s.history = newer ++ e :: older → e.createdBy = some req →
    ∀ token, CreatedFor hash initial older req.userID token →
      Spent hash s.table token ∧ token ∉ newer.filterMap ResetEvent.returnedToken

variable {initial : ResetTable} {s q : ResetServer}

theorem createdFor_cons {older : List ResetEvent} :
    CreatedFor hash initial (e :: older) userId token ↔
      CreatedFor hash initial older userId token ∨
        ∃ req, e.createdBy = some req ∧ req.userID = userId ∧ req.plaintextToken = token := by
  simp only [CreatedFor, exists_mem_cons_iff]
  rw [or_assoc]
  exact or_congr Iff.rfl or_comm

theorem kept_idle (h : Constrained initial) : Kept hash initial { table := initial } where
  constrained := h
  unopposed := by simp [Keyed.empty]
  apart := by simp [Keyed.empty]
  stored := by
    rintro userId token (⟨r, hr, hu, hhs⟩ | ⟨e, he, -⟩)
    · exact ⟨r, hr, hu, hhs⟩
    · cases he
  spent := by simp
  once := by simp
  superseded := by
    intro _ e _ _ hhst
    simp at hhst

namespace Kept

theorem history_cons (h : Kept hash initial s) (hgro : Grows s.table q.table)
    (hhst : q.history = e :: s.history) (hrtr : ∀ token, e.returnedToken = some token →
      ¬ Spent hash s.table token ∧ Spent hash q.table token)
    (hcre : ∀ req, e.createdBy = some req →
      Stored hash q.table req.userID req.plaintextToken ∧
        ∀ token, Stored hash s.table req.userID token → Spent hash q.table token) :
    (∀ userId token, CreatedFor hash initial q.history userId token →
      Stored hash q.table userId token) ∧
    (∀ token ∈ q.history.filterMap returnedToken, Spent hash q.table token) ∧
    (q.history.filterMap returnedToken).Nodup ∧
    (∀ newer e older req, q.history = newer ++ e :: older → e.createdBy = some req →
      ∀ token, CreatedFor hash initial older req.userID token →
        Spent hash q.table token ∧ token ∉ newer.filterMap returnedToken) := by
  rw [hhst]
  refine ⟨?_, ?_, ?_, ?_⟩
  · intro userId token hfor
    rcases createdFor_cons.mp hfor with ho | ⟨req, hreq, rfl, rfl⟩
    · exact (h.stored userId token ho).grows hgro
    · exact (hcre req hreq).1
  · intro token htok
    rw [filterMap_cons] at htok
    cases hret : e.returnedToken with
    | none =>
      rw [hret] at htok
      exact (h.spent token htok).grows hgro
    | some tok =>
      rw [hret] at htok
      rcases mem_cons.mp htok with rfl | ho
      · exact (hrtr _ hret).2
      · exact (h.spent token ho).grows hgro
  · rw [filterMap_cons]
    cases hret : e.returnedToken with
    | none => exact h.once
    | some tok =>
      refine nodup_cons.mpr ⟨?_, h.once⟩
      intro ho
      exact (hrtr tok hret).1 (h.spent tok ho)
  · intro newer e' older req hspl hreq token hfor
    rcases append_eq_cons_iff.mp hspl.symm with ⟨rfl, heq⟩ | ⟨rest, rfl, hrs⟩
    · -- the new answer is the request itself
      obtain ⟨rfl, rfl⟩ := List.cons.inj heq
      exact ⟨(hcre req hreq).2 token (h.stored _ _ hfor), by simp⟩
    · obtain ⟨hspt, hnot⟩ := h.superseded rest e' older req hrs hreq token hfor
      refine ⟨hspt.grows hgro, ?_⟩
      rw [filterMap_cons]
      cases hret : e.returnedToken with
      | none => exact hnot
      | some tok =>
        rw [mem_cons, not_or]
        refine ⟨?_, hnot⟩
        rintro rfl
        exact (hrtr _ hret).1 hspt

theorem quiet (h : Kept hash initial s) (htbl : q.table = s.table)
    (hins : ∀ x ∈ q.txs.rows, x.phase = .inserted → x ∈ s.txs.rows)
    (hhst : q.history = s.history ∨ ∃ e, e.silent ∧ q.history = e :: s.history) :
    Kept hash initial q := by
  have huno : ∀ x ∈ q.txs.rows, x.phase = .inserted → Unopposed hash q.table x := by
    intro x hx hph
    rw [htbl]
    exact h.unopposed x (hins x hx hph) hph
  have hapa : ∀ x ∈ q.txs.rows, ∀ y ∈ q.txs.rows, x.phase = .inserted → y.phase = .inserted →
      x.caller ≠ y.caller → x.rivals hash y = false := by
    intro x hx y hy hpx hpy
    exact h.apart x (hins x hx hpx) y (hins y hy hpy) hpx hpy
  rcases hhst with hsm | ⟨e, hsil, hco⟩
  · exact
      { constrained := htbl ▸ h.constrained, unopposed := huno, apart := hapa
        stored := by rw [hsm, htbl]; exact h.stored
        spent := by rw [hsm, htbl]; exact h.spent
        once := by rw [hsm]; exact h.once
        superseded := by rw [hsm, htbl]; exact h.superseded }
  · simp only [silent, Bool.and_eq_true, Option.isNone_iff_eq_none] at hsil
    have hgro : Grows s.table q.table := by
      intro r hr
      exact ⟨r, htbl ▸ hr, rfl, rfl, id⟩
    obtain ⟨hsto, hspt, honce, hsup⟩ := h.history_cons hgro hco
      (by simp [hsil.1]) (by simp [hsil.2])
    exact
      { constrained := htbl ▸ h.constrained, unopposed := huno, apart := hapa
        stored := hsto, spent := hspt, once := honce, superseded := hsup }

theorem not_rivals_of_insertWaits (hwai : s.insertWaits hash x = false) (hy : y ∈ s.txs.rows)
    (hph : y.phase = .inserted) (hne : y.caller ≠ x.caller) : x.rivals hash y = false := by
  simp only [insertWaits, Bool.or_eq_false_iff, any_eq_false] at hwai
  have hoth := hwai.1 y hy
  simpa [hph, hne] using hoth

theorem rivals_comm : x.rivals hash y = y.rivals hash x := by simp only [ResetTx.rivals, eq_comm]

theorem inserts (h : Kept hash initial s) (hwai : s.insertWaits hash x = false)
    (hfe : conflicts (x.row hash) (x.view s.table) = false) :
    Kept hash initial (s.setTx { x with phase := .inserted }) := by
  have hn : Unopposed hash s.table x := not_conflicts_view_iff.mp hfe
  refine { h with unopposed := ?_, apart := ?_ }
  · intro z hz hph
    rcases mem_put.mp hz with rfl | ⟨ho, -⟩
    · exact hn
    · exact h.unopposed z ho hph
  · intro y hy z hz hpy hpz hne
    rcases mem_put.mp hy with rfl | ⟨holdy, -⟩ <;> rcases mem_put.mp hz with rfl | ⟨holdz, -⟩
    · exact absurd rfl hne
    · exact not_rivals_of_insertWaits hwai holdz hpz hne.symm
    · rw [rivals_comm]
      exact not_rivals_of_insertWaits hwai holdy hpy hne
    · exact h.apart y holdy z holdz hpy hpz hne

theorem commits (h : Kept hash initial s) (hx : x ∈ s.txs.rows) (hph : x.phase = .inserted)
    (hsil : e.returnedToken = none) (hcre : e.createdBy = none ∨ e.createdBy = some x.req)
    (htbl : q.table = x.committed hash s.table) (htxs : q.txs = s.txs.delete x.caller)
    (hhst : q.history = e :: s.history) : Kept hash initial q := by
  have hfe : Unopposed hash s.table x := h.unopposed x hx hph
  have hgro : Grows s.table q.table := htbl ▸ grows_committed hfe
  have hown : Stored hash q.table x.req.userID x.req.plaintextToken := by
    rw [htbl]
    exact ⟨x.row hash, mem_put.mpr (.inl rfl), rfl, rfl⟩
  obtain ⟨hsto, hspt, honce, hsup⟩ := h.history_cons hgro hhst
    (by simp [hsil]) (by
      intro req hreq
      rcases hcre with hno | hso
      · rw [hno] at hreq
        cases hreq
      · rw [hso] at hreq
        cases hreq
        refine ⟨hown, ?_⟩
        intro _ hsto
        exact htbl ▸ spent_of_committed hfe hsto)
  exact
    { constrained := by
        rw [htbl]
        exact (h.constrained.marks marks_view).put (not_conflicts_view_iff.mpr hfe)
      unopposed := by
        intro y hy hpy
        rw [htxs, mem_delete] at hy
        rw [htbl]
        exact (h.unopposed y hy.1 hpy).committed (h.apart y hy.1 x hx hpy hph hy.2)
      apart := by
        intro y hy z hz
        rw [htxs, mem_delete] at hy hz
        exact h.apart y hy.1 z hz.1
      stored := hsto
      spent := hspt
      once := honce
      superseded := hsup }

theorem redeems {d : Redemption} (h : Kept hash initial s) (hr : r ∈ s.table.rows)
    (htkn : r.redeemable (hash d.token) d.now) (hcre : e.createdBy = none)
    (hrtr : e.returnedToken = none ∨ e.returnedToken = some d.token)
    (hmar : Marks s.table q.table) (hmkd : r.spent d.now ∈ q.table.rows) (htxs : q.txs = s.txs)
    (hhst : q.history = e :: s.history) : Kept hash initial q := by
  obtain ⟨hsto, hspt, honce, hsup⟩ := h.history_cons (grows_of_marks hmar) hhst
    (by
      intro token htok
      rcases hrtr with hno | hso
      · rw [hno] at htok
        cases htok
      · rw [hso] at htok
        cases htok
        exact ⟨not_spent_of_redeemable h.constrained hr htkn,
          r.spent d.now, hmkd, (PasswordReset.redeemable_iff.mp htkn).1, rfl⟩)
    (by simp [hcre])
  exact
    { constrained := h.constrained.marks hmar
      unopposed := by
        intro x hx hph
        rw [htxs] at hx
        exact (h.unopposed x hx hph).marks hmar
      apart := by rw [htxs]; exact h.apart
      stored := hsto
      spent := hspt
      once := honce
      superseded := hsup }

theorem of_moves (h : Kept hash initial s) (hmov : Moves hash s q) : Kept hash initial q := by
  cases hmov with
  | quiet htbl hins hhst => exact h.quiet htbl hins hhst
  | inserts x hwai hfe ht => exact ht ▸ h.inserts hwai hfe
  | commits x e hx hph hsil hcre htbl htxs hhst => exact h.commits hx hph hsil hcre htbl htxs hhst
  | redeems d r e hr htkn hcre hrtr htbl hmkd htxs hhst =>
    exact h.redeems hr htkn hcre hrtr
      (htbl ▸ marks_updateWhere (stillRedeemable hash d) d.now s.table) hmkd htxs hhst

theorem of_run {as : List ResetAct} (h : Kept hash initial s)
    (hrun : run (step hash duration) s as = some q) : Kept hash initial q :=
  (throughout_invariant (step hash duration)
    (fun _ _ _ hs hst => hs.of_moves (step_moves hst)) h as).final _ hrun

end Kept

end Invariant

theorem reset_tokens_single_use (hash : String → String) (duration : Int → String)
    {initial : ResetTable} (h : Constrained initial) {as : List ResetAct} {q : ResetServer}
    (hrun : run (step hash duration) { table := initial } as = some q) :
    q.OneOutstanding ∧ q.ReturnedOnce ∧ q.Superseding hash initial := by
  have hkp : Kept hash initial q := (kept_idle h).of_run hrun
  refine ⟨hkp.constrained.length_outstanding_le, ?_, ?_⟩
  · intro token
    exact nodup_iff_count_le_one.mp hkp.once token
  · intro newer e older req hhst hreq token hfor
    exact (hkp.superseded newer e older req hhst hreq token hfor).2

def raceRequest (token : String) : ResetRequest :=
  { userID := "u", plaintextToken := token, ttl := 10, requestedIP := "", userAgent := "" }

def raceActs : List ResetAct :=
  [.create 0 (raceRequest "a") 0 "r0", .create 1 (raceRequest "b") 0 "r1", .begin 0, .begin 1,
    .startUpdate 0, .startUpdate 1, .update 0, .update 1, .insert 0 "duplicate key", .commit 0 none,
    .insert 1 "duplicate key", .consume 2 "a" 1, .take 2 none, .create 3 (raceRequest "c") 2 "r2",
    .begin 3, .startUpdate 3, .update 3, .insert 3 "duplicate key", .commit 3 none,
    .consume 2 "a" 3, .take 2 none, .consume 2 "c" 3, .take 2 none, .consume 2 "c" 3, .take 2 none]

theorem reset_tokens_single_use_race :
    (run (step id (fun _ => "")) { table := Keyed.empty } raceActs).map
        (fun q => q.history.filterMap returnedToken) = some ["c", "a"] ∧
      ∀ q, run (step id (fun _ => "")) { table := Keyed.empty } raceActs = some q →
        q.OneOutstanding ∧ q.ReturnedOnce ∧ q.Superseding id Keyed.empty := by
  refine ⟨by decide +kernel, ?_⟩
  intro q hrun
  exact reset_tokens_single_use id (fun _ => "") ⟨by simp, by simp⟩ hrun

end ResetServer

end ETradie.Auth
