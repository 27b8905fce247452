import ETradie.Kernel.Keyed
import ETradie.Kernel.Runs

namespace ETradie.Auth

open Kernel Keyed List

variable {t : ResetTable} {r : PasswordReset} {now : Int}

section Store

variable {p : PasswordReset → Bool}

structure PasswordReset where
  (id userId tokenHash : String)
  (createdAt expiresAt : Int)
  consumed : Bool
  consumedAt : Option Int
  (requestedIP userAgent : String)
deriving DecidableEq

abbrev ResetTable := Keyed PasswordReset.id

namespace PasswordReset

def spent (now : Int) (r : PasswordReset) : PasswordReset :=
  { r with consumed := true, consumedAt := some now }

def outstanding (userId : String) (r : PasswordReset) : Bool :=
  r.userId = userId && !r.consumed

def redeemable (tokenHash : String) (now : Int) (r : PasswordReset) : Bool :=
  r.tokenHash = tokenHash && !r.consumed && decide (now < r.expiresAt)

theorem spent_id (now : Int) (r : PasswordReset) : (r.spent now).id = r.id :=
  rfl

theorem outstanding_iff {userId : String} :
    r.outstanding userId = true ↔ r.userId = userId ∧ r.consumed = false := by
  simp [outstanding]

theorem redeemable_iff {tokenHash : String} :
    r.redeemable tokenHash now = true ↔
      r.tokenHash = tokenHash ∧ r.consumed = false ∧ now < r.expiresAt := by
  simp [redeemable, and_assoc]

end PasswordReset

open PasswordReset (spent spent_id outstanding redeemable)

structure ResetRequest where
  (userID plaintextToken : String)
  ttl : Int
  (requestedIP userAgent : String)
deriving DecidableEq

namespace ResetRequest

def check (duration : Int → String) (req : ResetRequest) : Option String :=
  if req.userID = "" then some "password reset: user_id is required"
  else if req.plaintextToken = "" then some "password reset: token is required"
  else if req.ttl ≤ 0 then
    some ("password reset: ttl must be positive, got " ++ duration req.ttl)
  else none

def row (hash : String → String) (now : Int) (id : String) (req : ResetRequest) :
    PasswordReset where
  id := id
  userId := req.userID
  tokenHash := hash req.plaintextToken
  createdAt := now
  expiresAt := now + req.ttl
  consumed := false
  consumedAt := none
  requestedIP := req.requestedIP
  userAgent := req.userAgent

end ResetRequest

def spendIds (now : Int) (ids : List String) (t : ResetTable) : ResetTable :=
  t.updateWhere (·.id ∈ ids) (spent now) (spent_id now)

def conflicts (row : PasswordReset) (t : ResetTable) : Bool :=
  t.rows.any (fun r => r.id = row.id || r.tokenHash = row.tokenHash || r.outstanding row.userId)

def idsWhere (p : PasswordReset → Bool) (t : ResetTable) : List String :=
  (t.rows.filter p).map PasswordReset.id

theorem mem_spendIds {ids : List String} :
    r ∈ (spendIds now ids t).rows ↔
      ∃ r' ∈ t.rows, (if r'.id ∈ ids then r'.spent now else r') = r := by
  simp only [spendIds, mem_updateWhere, decide_eq_true_eq]

theorem not_conflicts_iff {row : PasswordReset} :
    conflicts row t = false ↔
      ∀ r ∈ t.rows, r.id ≠ row.id ∧ r.tokenHash ≠ row.tokenHash ∧
        (r.userId = row.userId → r.consumed = true) := by
  simp [conflicts, outstanding, and_assoc]

structure Constrained (t : ResetTable) : Prop where
  tokenHash_unique : ∀ r ∈ t.rows, ∀ r' ∈ t.rows, r.tokenHash = r'.tokenHash → r = r'
  outstanding_unique : ∀ r ∈ t.rows, ∀ r' ∈ t.rows, r.userId = r'.userId →
    r.consumed = false → r'.consumed = false → r = r'

structure Marks (t t' : ResetTable) : Prop where
  back : ∀ r' ∈ t'.rows, ∃ r ∈ t.rows, r' = r ∨ ∃ now, r' = r.spent now
  forth : ∀ r ∈ t.rows, ∃ r' ∈ t'.rows, r' = r ∨ ∃ now, r' = r.spent now

theorem marks_updateWhere (p : PasswordReset → Bool) (now : Int) (t : ResetTable) :
    Marks t (t.updateWhere p (spent now) (spent_id now)) where
  back := by
    intro _ hr'
    obtain ⟨r, hr, rfl⟩ := mem_updateWhere.mp hr'
    refine ⟨r, hr, ?_⟩
    split
    · exact .inr ⟨now, rfl⟩
    · exact .inl rfl
  forth := by
    intro r hr
    refine ⟨_, mem_updateWhere.mpr ⟨r, hr, rfl⟩, ?_⟩
    split
    · exact .inr ⟨now, rfl⟩
    · exact .inl rfl

theorem spent_or_same {r' : PasswordReset} (h : r' = r ∨ ∃ now, r' = r.spent now) :
    r'.id = r.id ∧ r'.userId = r.userId ∧ r'.tokenHash = r.tokenHash ∧
      (r'.consumed = false → r' = r) ∧ (r.consumed = true → r'.consumed = true) := by
  rcases h with rfl | ⟨now, rfl⟩ <;> simp [spent]

namespace Constrained

variable {t' : ResetTable}

theorem marks (h : Constrained t) (hmar : Marks t t') : Constrained t' where
  tokenHash_unique := by
    intro r₁' h₁' r₂' h₂' hhs
    obtain ⟨r₁, h₁, hm₁⟩ := hmar.back r₁' h₁'
    obtain ⟨r₂, h₂, hm₂⟩ := hmar.back r₂' h₂'
    obtain ⟨hid₁, -, hhs₁, -⟩ := spent_or_same hm₁
    obtain ⟨hid₂, -, hhs₂, -⟩ := spent_or_same hm₂
    have hsm : r₁ = r₂ := h.tokenHash_unique r₁ h₁ r₂ h₂ (hhs₁ ▸ hhs₂ ▸ hhs)
    have hg : some r₁' = some r₂' := by
      rw [← get_key h₁', ← get_key h₂', hid₁, hid₂, hsm]
    exact Option.some.inj hg
  outstanding_unique := by
    intro r₁' h₁' r₂' h₂' hu hlv₁ hlv₂
    obtain ⟨r₁, h₁, hm₁⟩ := hmar.back r₁' h₁'
    obtain ⟨r₂, h₂, hm₂⟩ := hmar.back r₂' h₂'
    obtain ⟨-, -, -, hsm₁, -⟩ := spent_or_same hm₁
    obtain ⟨-, -, -, hsm₂, -⟩ := spent_or_same hm₂
    obtain rfl := hsm₁ hlv₁
    obtain rfl := hsm₂ hlv₂
    exact h.outstanding_unique r₁' h₁ r₂' h₂ hu hlv₁ hlv₂

theorem put {row : PasswordReset} (h : Constrained t) (hfe : conflicts row t = false) :
    Constrained (t.put row) := by
  rw [not_conflicts_iff] at hfe
  constructor
  · intro r hr r' hr' hhs
    rcases mem_put.mp hr with rfl | ⟨ho, -⟩ <;>
      rcases mem_put.mp hr' with rfl | ⟨ho', -⟩
    · rfl
    · exact absurd hhs.symm (hfe r' ho').2.1
    · exact absurd hhs (hfe r ho).2.1
    · exact h.tokenHash_unique r ho r' ho' hhs
  · intro r hr r' hr' hu hlv hlv'
    rcases mem_put.mp hr with rfl | ⟨ho, -⟩ <;>
      rcases mem_put.mp hr' with rfl | ⟨ho', -⟩
    · rfl
    · exact absurd ((hfe r' ho').2.2 hu.symm) (by simp [hlv'])
    · exact absurd ((hfe r ho).2.2 hu) (by simp [hlv])
    · exact h.outstanding_unique r ho r' ho' hu hlv hlv'

theorem length_outstanding_le (h : Constrained t) (userId : String) :
    (t.rows.filter (outstanding userId)).length ≤ 1 := by
  refine length_filter_le_one ?_
  intro r hr r' hr' hout hout'
  rw [PasswordReset.outstanding_iff] at hout hout'
  exact h.outstanding_unique r hr r' hr' (hout.1.trans hout'.1.symm) hout.2 hout'.2

end Constrained

end Store

open PasswordReset (spent spent_id outstanding redeemable)

inductive TxPhase where
  | called
  | begun
  | updating (seen : List String)
  | updated
  | inserted
deriving DecidableEq

def TxPhase.failure : TxPhase → String
  | .called => "password reset: begin tx: "
  | .begun => "password reset: invalidate prior tokens: "
  | .updating _ => "password reset: invalidate prior tokens: "
  | .updated => "password reset: insert: "
  | .inserted => "password reset: commit: "

structure ResetTx where
  caller : Nat
  req : ResetRequest
  now : Int
  id : String
  phase : TxPhase := .called
  revoked : List String := []
deriving DecidableEq

namespace ResetTx

def row (hash : String → String) (x : ResetTx) : PasswordReset :=
  x.req.row hash x.now x.id

def view (t : ResetTable) (x : ResetTx) : ResetTable :=
  spendIds x.now x.revoked t

def committed (hash : String → String) (t : ResetTable) (x : ResetTx) : ResetTable :=
  (x.view t).put (x.row hash)

def rivals (hash : String → String) (x y : ResetTx) : Bool :=
  x.req.userID = y.req.userID || (x.row hash).tokenHash = (y.row hash).tokenHash || x.id = y.id

end ResetTx

structure Redemption where
  caller : Nat
  token : String
  now : Int
  seen : List String
deriving DecidableEq

inductive ResetEvent where
  | created (req : ResetRequest) (row : PasswordReset)
  | createError (req : ResetRequest) (err : String)
  | returned (token : String) (row : PasswordReset)
  | notFound (token : String)
  | consumeError (token : String) (err : String)
deriving DecidableEq

namespace ResetEvent

def returnedToken : ResetEvent → Option String
  | .returned token _ => some token
  | _ => none

def createdBy : ResetEvent → Option ResetRequest
  | .created req _ => some req
  | _ => none

def silent (e : ResetEvent) : Bool :=
  e.returnedToken.isNone && e.createdBy.isNone

end ResetEvent

structure ResetServer where
  table : ResetTable
  txs : Keyed ResetTx.caller := Keyed.empty
  redemptions : Keyed Redemption.caller := Keyed.empty
  history : List ResetEvent := []

inductive ResetAct where
  | create (c : Nat) (req : ResetRequest) (now : Int) (id : String)
  | begin (c : Nat)
  | startUpdate (c : Nat)
  | update (c : Nat)
  | insert (c : Nat) (violation : String)
  | commit (c : Nat) (lost : Option String)
  | fail (c : Nat) (err : String)
  | consume (c : Nat) (token : String) (now : Int)
  | take (c : Nat) (lost : Option String)
  | consumeFail (c : Nat) (err : String)
deriving DecidableEq

variable {x y : ResetTx} {c : Nat}

namespace ResetServer

variable (hash : String → String) (duration : Int → String) {s : ResetServer}

def locked (s : ResetServer) (c : Nat) (ids : List String) : Bool :=
  s.txs.rows.any (fun y => y.caller ≠ c && ids.any (fun k => k ∈ y.revoked))

def insertWaits (s : ResetServer) (x : ResetTx) : Bool :=
  s.txs.rows.any (fun y => y.caller ≠ x.caller && y.phase = .inserted && x.rivals hash y) ||
    s.locked x.caller (idsWhere (outstanding x.req.userID) s.table)

def setTx (s : ResetServer) (x : ResetTx) : ResetServer :=
  { s with txs := s.txs.put x }

def endTx (s : ResetServer) (x : ResetTx) (e : ResetEvent) : ResetServer :=
  { s with txs := s.txs.delete x.caller, history := e :: s.history }

def endRedemption (s : ResetServer) (d : Redemption) (e : ResetEvent) : ResetServer :=
  { s with redemptions := s.redemptions.delete d.caller, history := e :: s.history }

def stillRedeemable (d : Redemption) (r : PasswordReset) : Bool :=
  decide (r.id ∈ d.seen) && r.redeemable (hash d.token) d.now

def redeem (s : ResetServer) (d : Redemption) (lost : Option String) : ResetServer :=
  match s.table.rows.find? (stillRedeemable hash d) with
  | none =>
    s.endRedemption d
      (match lost with
        | some err => .consumeError d.token ("password reset: consume: " ++ err)
        | none => .notFound d.token)
  | some r =>
    { s.endRedemption d
        (match lost with
          | some err => .consumeError d.token ("password reset: consume: " ++ err)
          | none => .returned d.token (r.spent d.now)) with
      table := s.table.updateWhere (stillRedeemable hash d) (spent d.now)
        (spent_id d.now) }

def step (s : ResetServer) : ResetAct → Option ResetServer
  | .create c req now id =>
    if s.txs.get c = none then
      match req.check duration with
      | some err => some { s with history := .createError req err :: s.history }
      | none => some (s.setTx { caller := c, req := req, now := now, id := id })
    else none
  | .begin c =>
    match s.txs.get c with
    | some x => if x.phase = .called then some (s.setTx { x with phase := .begun }) else none
    | none => none
  | .startUpdate c =>
    match s.txs.get c with
    | some x =>
      if x.phase = .begun then
        let seen := idsWhere (outstanding x.req.userID) s.table
        some (s.setTx { x with phase := .updating seen })
      else none
    | none => none
  | .update c =>
    match s.txs.get c with
    | some x =>
      match x.phase with
      | .updating seen =>
        if s.locked c seen then none
        else
          let ids := idsWhere
            (fun r => decide (r.id ∈ seen) && r.outstanding x.req.userID) s.table
          some (s.setTx { x with phase := .updated, revoked := ids })
      | _ => none
    | none => none
  | .insert c violation =>
    match s.txs.get c with
    | some x =>
      if x.phase = .updated ∧ s.insertWaits hash x = false then
        if conflicts (x.row hash) (x.view s.table) then
          some (s.endTx x (.createError x.req (x.phase.failure ++ violation)))
        else some (s.setTx { x with phase := .inserted })
      else none
    | none => none
  | .commit c lost =>
    match s.txs.get c with
    | some x =>
      if x.phase = .inserted then
        some
          { s.endTx x
              (match lost with
                | some err => .createError x.req (x.phase.failure ++ err)
                | none => .created x.req (x.row hash)) with
            table := x.committed hash s.table }
      else none
    | none => none
  | .fail c err =>
    match s.txs.get c with
    | some x => some (s.endTx x (.createError x.req (x.phase.failure ++ err)))
    | none => none
  | .consume c token now =>
    if s.redemptions.get c = none then
      if token = "" then some { s with history := .notFound token :: s.history }
      else
        let seen := idsWhere (redeemable (hash token) now) s.table
        some { s with redemptions := s.redemptions.put ⟨c, token, now, seen⟩ }
    else none
  | .take c lost =>
    match s.redemptions.get c with
    | some d =>
      -- a redemption is no transaction of its own and holds no rows
      if s.txs.rows.any (fun y => d.seen.any (fun k => k ∈ y.revoked)) then none
      else some (s.redeem hash d lost)
    | none => none
  | .consumeFail c err =>
    match s.redemptions.get c with
    | some d =>
      some (s.endRedemption d (.consumeError d.token ("password reset: consume: " ++ err)))
    | none => none

def OneOutstanding (s : ResetServer) : Prop :=
  ∀ userId, (s.table.rows.filter (outstanding userId)).length ≤ 1

def ReturnedOnce (s : ResetServer) : Prop :=
  ∀ token, (s.history.filterMap ResetEvent.returnedToken).count token ≤ 1

def CreatedFor (initial : ResetTable) (older : List ResetEvent) (userId token : String) : Prop :=
  (∃ r ∈ initial.rows, r.userId = userId ∧ r.tokenHash = hash token) ∨
    ∃ e ∈ older, ∃ req, e.createdBy = some req ∧ req.userID = userId ∧
      req.plaintextToken = token

def Superseding (initial : ResetTable) (s : ResetServer) : Prop :=
  ∀ newer e older req, s.history = newer ++ e :: older → e.createdBy = some req →
    ∀ token, CreatedFor hash initial older req.userID token →
      token ∉ newer.filterMap ResetEvent.returnedToken

inductive Moves (s t : ResetServer) : Prop
  | quiet
      (htable : t.table = s.table)
      (hinserted : ∀ x ∈ t.txs.rows, x.phase = .inserted → x ∈ s.txs.rows)
      (hhistory : t.history = s.history ∨ ∃ e, e.silent = true ∧ t.history = e :: s.history)
  | inserts (x : ResetTx)
      (hwaits : s.insertWaits hash x = false)
      (hfree : conflicts (x.row hash) (x.view s.table) = false)
      (ht : t = s.setTx { x with phase := .inserted })
  | commits (x : ResetTx) (e : ResetEvent)
      (hx : x ∈ s.txs.rows)
      (hphase : x.phase = .inserted)
      (hsilent : e.returnedToken = none)
      (hcreated : e.createdBy = none ∨ e.createdBy = some x.req)
      (htable : t.table = x.committed hash s.table)
      (htxs : t.txs = s.txs.delete x.caller)
      (hhistory : t.history = e :: s.history)
  | redeems (d : Redemption) (r : PasswordReset) (e : ResetEvent)
      (hr : r ∈ s.table.rows)
      (htaken : r.redeemable (hash d.token) d.now = true)
      (hcreated : e.createdBy = none)
      (hreturned : e.returnedToken = none ∨ e.returnedToken = some d.token)
      (htable : t.table = s.table.updateWhere (stillRedeemable hash d)
        (spent d.now) (spent_id d.now))
      (hmarked : r.spent d.now ∈ t.table.rows)
      (htxs : t.txs = s.txs)
      (hhistory : t.history = e :: s.history)

variable {hash duration}

theorem inserted_of_setTx (hph : x.phase ≠ .inserted)
    (hy : y ∈ (s.setTx x).txs.rows) (hins : y.phase = .inserted) : y ∈ s.txs.rows := by
  rcases mem_put.mp hy with rfl | ⟨hm, -⟩
  · exact absurd hins hph
  · exact hm

theorem moves_setTx (hph : x.phase ≠ .inserted) : Moves hash s (s.setTx x) :=
  .quiet rfl (fun _ hy => inserted_of_setTx hph hy) (.inl rfl)

theorem moves_endTx {e : ResetEvent} (hsil : e.silent = true) : Moves hash s (s.endTx x e) :=
  .quiet rfl (fun _ hy _ => (mem_delete.mp hy).1) (.inr ⟨e, hsil, rfl⟩)

theorem moves_redeem (s : ResetServer) (d : Redemption) (lost : Option String) :
    Moves hash s (s.redeem hash d lost) := by
  unfold redeem
  split
  · exact .quiet rfl (fun _ hy _ => hy) (.inr ⟨_, by cases lost <;> rfl, rfl⟩)
  · next r hf =>
    have hm := mem_of_find?_eq_some hf
    have htkn := find?_some hf
    have hred : r.redeemable (hash d.token) d.now = true := by
      simp only [stillRedeemable, Bool.and_eq_true] at htkn
      exact htkn.2
    have hmkd : r.spent d.now ∈ (s.table.updateWhere (stillRedeemable hash d)
        (spent d.now) (spent_id d.now)).rows :=
      mem_updateWhere.mpr ⟨r, hm, if_pos htkn⟩
    exact .redeems d r _ hm hred (by cases lost <;> rfl)
      (by cases lost <;> simp [ResetEvent.returnedToken]) rfl hmkd rfl rfl

theorem step_moves {t : ResetServer} {a : ResetAct} (hst : step hash duration s a = some t) :
    Moves hash s t := by
  revert hst
  fun_cases step hash duration s a
  all_goals rintro ⟨⟩
  · exact .quiet rfl (fun _ hy _ => hy) (.inr ⟨_, rfl, rfl⟩)
  · exact moves_setTx (by simp)
  · exact moves_setTx (by simp)
  · exact moves_setTx (by simp)
  · exact moves_setTx (by simp)
  · exact moves_endTx rfl
  · next x _ hrdy hfe => exact .inserts x hrdy.2 (Bool.eq_false_iff.mpr hfe) rfl
  · next lost x hg hph =>
    exact .commits x _ (mem_of_get hg) hph (by cases lost <;> rfl)
      (by cases lost <;> simp [ResetEvent.createdBy]) rfl rfl rfl
  · exact moves_endTx rfl
  · exact .quiet rfl (fun _ hy _ => hy) (.inr ⟨_, rfl, rfl⟩)
  · exact .quiet rfl (fun _ hy _ => hy) (.inl rfl)
  · exact moves_redeem s _ _
  · exact .quiet rfl (fun _ hy _ => hy) (.inr ⟨_, rfl, rfl⟩)

end ResetServer

end ETradie.Auth
