import ETradie.Kernel.Keyed
import ETradie.Kernel.Runs

namespace ETradie.Auth

open Kernel Keyed Option

variable {db : Db} {sess : Session}

structure User where
  id : String
  active : Bool
  passwordHash : String
  tokenEpoch : Nat
deriving DecidableEq

structure Session where
  (id userId refreshToken userAgent clientIP : String)
  (expiresAt createdAt : Int)
  revoked : Bool
deriving DecidableEq

def Session.isExpired (now : Int) (sess : Session) : Bool := sess.expiresAt < now

def Session.isUsable (now : Int) (sess : Session) : Bool := !sess.revoked && !sess.isExpired now

def Session.withdrawn (sess : Session) : Session := { sess with revoked := true }

theorem Session.withdrawn_id (sess : Session) : sess.withdrawn.id = sess.id := rfl

structure Db where
  users : Keyed User.id
  sessions : Keyed Session.id

def getSessionByToken (hash : String → String) (token : String) (db : Db) : Option Session :=
  db.sessions.rows.find? (·.refreshToken = hash token)

def getUserByID (id : String) (db : Db) : Option User := db.users.get id

def createSession (sess : Session) (db : Db) : Db := { db with sessions := db.sessions.put sess }

variable (p : Session → Bool)

def withdraw (db : Db) : Db :=
  { db with sessions := db.sessions.updateWhere p Session.withdrawn Session.withdrawn_id }

def revokeSession (id : String) (db : Db) : Db := withdraw (·.id = id) db

variable (userId : String)

def revokeAllUserSessions (db : Db) : Db := withdraw (fun r => r.userId = userId && !r.revoked) db

def updateUser (f : User → User) (hid : ∀ u, (f u).id = u.id) (db : Db) : Db :=
  { db with users := db.users.updateWhere (·.id = userId) f hid }

variable (passwordHash : String)

def User.withPassword (u : User) : User := { u with passwordHash := passwordHash }

def User.deactivated (u : User) : User := { u with active := false }

def User.bumped (u : User) : User := { u with tokenEpoch := u.tokenEpoch + 1 }

def updatePassword (db : Db) : Db :=
  updateUser userId (User.withPassword passwordHash) (fun _ => by rfl) db

def deactivateUser (db : Db) : Db := updateUser userId User.deactivated (fun _ => by rfl) db

def bumpTokenEpoch (db : Db) : Db := updateUser userId User.bumped (fun _ => by rfl) db

theorem get_withdraw (db : Db) (k : String) :
    (withdraw p db).sessions.get k =
      (db.sessions.get k).map (fun r => if p r then r.withdrawn else r) :=
  get_updateWhere db.sessions p Session.withdrawn Session.withdrawn_id k

def OnlyRevokes (db db' : Db) : Prop :=
  ∀ k row, db.sessions.get k = some row →
    ∃ row', db'.sessions.get k = some row' ∧ row'.userId = row.userId ∧
      (row.revoked = true → row'.revoked = true)

theorem OnlyRevokes.of_sessions_eq {db' : Db} (h : db'.sessions = db.sessions) :
    OnlyRevokes db db' := by
  intro k row hg
  exact ⟨row, h ▸ hg, rfl, id⟩

theorem OnlyRevokes.withdraw (db : Db) : OnlyRevokes db (withdraw p db) := by
  intro k row hg
  refine ⟨if p row then row.withdrawn else row, ?_, ?_, ?_⟩
  · rw [get_withdraw, hg, map_some]
  · split
    · rfl
    · rfl
  · intro hrev
    split
    · rfl
    · exact hrev

theorem OnlyRevokes.createSession (hn : db.sessions.get sess.id = none) :
    OnlyRevokes db (createSession sess db) := by
  intro k row hg
  refine ⟨row, ?_, rfl, id⟩
  have hne : sess.id ≠ k := by
    rintro rfl
    cases hn.symm.trans hg
  exact (get_put_ne db.sessions hne).trans hg

variable {userId}

theorem revoked_of_revokeAll {k : String} {row : Session}
    (hg : (revokeAllUserSessions userId db).sessions.get k = some row)
    (hu : row.userId = userId) : row.revoked := by
  rw [revokeAllUserSessions, get_withdraw, map_eq_some_iff] at hg
  obtain ⟨old, -, rfl⟩ := hg
  split at hu
  · next hp =>
    rw [if_pos hp]
    rfl
  · next hp =>
    rw [if_neg hp]
    simpa [hu] using hp

theorem getSessionByToken_withdraw (hash : String → String) (token : String) (p : Session → Bool)
    (db : Db) :
    getSessionByToken hash token (withdraw p db) =
      (getSessionByToken hash token db).map (fun r => if p r then r.withdrawn else r) := by
  have htok : ∀ r : Session, (if p r then r.withdrawn else r).refreshToken = r.refreshToken := by
    intro r
    split
    · rfl
    · rfl
  simp only [getSessionByToken, withdraw, Keyed.updateWhere, List.find?_map, Function.comp_def,
    htok]

theorem getSessionByToken_createSession {hash : String → String} {token : String}
    (hn : db.sessions.get sess.id = none) (htok : sess.refreshToken ≠ hash token) :
    getSessionByToken hash token (createSession sess db) = getSessionByToken hash token db := by
  have hrw : (db.sessions.put sess).rows = db.sessions.rows ++ [sess] :=
    if_neg (get_eq_none_iff.mp hn)
  simp [getSessionByToken, createSession, hrw, htok]

structure RefreshRequest where
  (bodyToken cookieToken userAgent clientIP : String)
deriving DecidableEq

def RefreshRequest.refreshToken (req : RefreshRequest) : String :=
  if req.bodyToken = "" then req.cookieToken else req.bodyToken

inductive Reply where
  | error (status : Nat) (message : String)
  | renewed (sessionId : String)
deriving DecidableEq

def reuseReply : Reply :=
  .error 401 "refresh token reuse detected; all sessions revoked, please sign in again"

inductive Verdict where
  | refused (reply : Reply)
  | reuse (sess : Session)
  | usable (sess : Session)
deriving DecidableEq

def judge (hash : String → String) (now : Int) (req : RefreshRequest) (db : Db) : Verdict :=
  if req.refreshToken = "" then .refused (.error 400 "refresh_token is required")
  else
    match getSessionByToken hash req.refreshToken db with
    | none => .refused (.error 401 "invalid refresh token")
    | some sess =>
      if sess.revoked && !sess.isExpired now then .reuse sess
      else if !sess.isUsable now then .refused (.error 401 "refresh token expired or revoked")
      else .usable sess

def checkUser (sess : Session) (db : Db) : Except Reply User :=
  match getUserByID sess.userId db with
  | none => .error (.error 401 "user not found")
  | some user => if !user.active then .error (.error 403 "account is deactivated") else .ok user

def newSession (hash : String → String) (ttl now : Int) (req : RefreshRequest) (user : User)
    (newId raw : String) : Session where
  id := newId
  userId := user.id
  refreshToken := hash raw
  userAgent := req.userAgent
  clientIP := req.clientIP
  expiresAt := now + ttl
  createdAt := now
  revoked := false

def handleRefresh (hash : String → String) (ttl now : Int) (req : RefreshRequest)
    (newId raw : String) (db : Db) : Reply × Db :=
  match judge hash now req db with
  | .refused reply => (reply, db)
  | .reuse sess => (reuseReply, revokeAllUserSessions sess.userId db)
  | .usable sess =>
    match checkUser sess db with
    | .error reply => (reply, db)
    | .ok user =>
      (.renewed newId,
        createSession (newSession hash ttl now req user newId raw) (revokeSession sess.id db))

inductive Statement where
  | updatePassword (passwordHash : String)
  | deactivateUser
  | revokeAllUserSessions
  | bumpTokenEpoch
deriving DecidableEq

def Statement.exec (userId : String) : Statement → Db → Db
  | .updatePassword passwordHash => Auth.updatePassword userId passwordHash
  | .deactivateUser => Auth.deactivateUser userId
  | .revokeAllUserSessions => Auth.revokeAllUserSessions userId
  | .bumpTokenEpoch => Auth.bumpTokenEpoch userId

inductive Ending where
  | changePassword (passwordHash : String)
  | resetPassword (passwordHash : String)
  | deactivate
  | logoutAll
deriving DecidableEq

def Ending.statements : Ending → List Statement
  | .changePassword passwordHash =>
    [.updatePassword passwordHash, .revokeAllUserSessions, .bumpTokenEpoch]
  | .resetPassword passwordHash =>
    [.updatePassword passwordHash, .revokeAllUserSessions, .bumpTokenEpoch]
  | .deactivate => [.deactivateUser, .revokeAllUserSessions, .bumpTokenEpoch]
  | .logoutAll => [.revokeAllUserSessions]

theorem Ending.revokes (e : Ending) : Statement.revokeAllUserSessions ∈ e.statements := by
  cases e <;> simp [Ending.statements]

theorem OnlyRevokes.exec (userId : String) (stmt : Statement) (db : Db) :
    OnlyRevokes db (stmt.exec userId db) := by
  cases stmt with
  | revokeAllUserSessions => exact .withdraw _ db
  | _ => exact .of_sessions_eq rfl

theorem active_of_exec {id : String} {stmt : Statement} {u : User}
    (hg : getUserByID id (stmt.exec userId db) = some u) (hact : u.active) :
    ∃ u', getUserByID id db = some u' ∧ u'.active := by
  have hupd : ∀ (f : User → User) (hid : ∀ u, (f u).id = u.id),
      (∀ u, (f u).active → u.active) →
      getUserByID id (updateUser userId f hid db) = some u →
      ∃ u', getUserByID id db = some u' ∧ u'.active := by
    intro f hid hf h
    rw [getUserByID, updateUser, get_updateWhere, map_eq_some_iff] at h
    obtain ⟨u', hu', rfl⟩ := h
    refine ⟨u', hu', ?_⟩
    split at hact
    · exact hf u' hact
    · exact hact
  cases stmt with
  | updatePassword passwordHash => exact hupd (User.withPassword passwordHash) _ (fun _ h => h) hg
  | deactivateUser => exact hupd User.deactivated _ (fun _ h => (by cases h)) hg
  | revokeAllUserSessions => exact ⟨u, hg, hact⟩
  | bumpTokenEpoch => exact hupd User.bumped _ (fun _ h => h) hg

inductive RefreshPhase where
  | found (sess : Session)
  | reused (sess : Session)
  | admitted (sess : Session) (user : User)
  | rotated (sess : Session) (user : User)
  | done (reply : Reply)
deriving DecidableEq

def Verdict.phase : Verdict → RefreshPhase
  | .refused reply => .done reply
  | .reuse sess => .reused sess
  | .usable sess => .found sess

structure RefreshCall where
  id : Nat
  req : RefreshRequest
  phase : RefreshPhase
deriving DecidableEq

namespace RefreshCall

def held (c : RefreshCall) : Option Session :=
  match c.phase with
  | .found sess => some sess
  | .reused sess => some sess
  | .admitted sess _ => some sess
  | .rotated sess _ => some sess
  | .done _ => none

def account (c : RefreshCall) : Option User :=
  match c.phase with
  | .admitted _ user => some user
  | .rotated _ user => some user
  | _ => none

end RefreshCall

structure Operation where
  id : Nat
  user : String
  pending : List Statement
  old : List String
deriving DecidableEq

def Operation.adopting (newId : String) (op : Operation) : Operation :=
  { op with old := newId :: op.old }

theorem Operation.adopting_id (newId : String) (op : Operation) : (op.adopting newId).id = op.id :=
  rfl

structure Server where
  db : Db
  now : Int
  calls : Keyed RefreshCall.id := Keyed.empty
  ops : Keyed Operation.id := Keyed.empty

inductive AuthAct where
  | tick (nanos : Nat)
  | lookup (i : Nat) (req : RefreshRequest)
  | loadUser (i : Nat)
  | revokeOld (i : Nat)
  | create (i : Nat) (newId raw : String)
  | revokeFamily (i : Nat)
  | begin (j : Nat) (e : Ending) (user : String)
  | exec (j : Nat)
deriving DecidableEq

variable (s : Server) (c : RefreshCall)

namespace Server

variable (hash : String → String) (ttl : Int)

def move (phase : RefreshPhase) (db : Db) : Server :=
  { s with db := db, calls := s.calls.put { c with phase := phase } }

def inherit (ops : Keyed Operation.id) (source newId : String) : Keyed Operation.id :=
  ops.updateWhere (·.old.contains source) (Operation.adopting newId) (Operation.adopting_id newId)

def userSessions (user : String) (db : Db) : List String :=
  (db.sessions.rows.filter (·.userId = user)).map Session.id

def advance (s : Server) (c : RefreshCall) : AuthAct → Option Server
  | .loadUser _ =>
    match c.phase with
    | .found sess =>
      match checkUser sess s.db with
      | .error reply => some (s.move c (.done reply) s.db)
      | .ok user => some (s.move c (.admitted sess user) s.db)
    | _ => none
  | .revokeOld _ =>
    match c.phase with
    | .admitted sess user => some (s.move c (.rotated sess user) (revokeSession sess.id s.db))
    | _ => none
  | .create _ newId raw =>
    match c.phase with
    | .rotated sess user =>
      if s.db.sessions.get newId = none ∧ getSessionByToken hash raw s.db = none then
        some
          { s.move c (.done (.renewed newId))
              (createSession (newSession hash ttl s.now c.req user newId raw) s.db) with
            ops := inherit s.ops sess.id newId }
      else none
    | _ => none
  | .revokeFamily _ =>
    match c.phase with
    | .reused sess => some (s.move c (.done reuseReply) (revokeAllUserSessions sess.userId s.db))
    | _ => none
  | _ => none

def step (s : Server) : AuthAct → Option Server
  | .tick nanos => some { s with now := s.now + nanos }
  | .lookup i req =>
    if s.calls.get i = none then
      some { s with calls := s.calls.put ⟨i, req, (judge hash s.now req s.db).phase⟩ }
    else none
  | .begin j e user =>
    if s.ops.get j = none then
      some { s with ops := s.ops.put ⟨j, user, e.statements, userSessions user s.db⟩ }
    else none
  | .exec j =>
    match s.ops.get j with
    | some op =>
      match op.pending with
      | stmt :: rest =>
        some { s with db := stmt.exec op.user s.db, ops := s.ops.put { op with pending := rest } }
      | [] => none
    | none => none
  | .loadUser i => (s.calls.get i).bind (fun c => s.advance hash ttl c (.loadUser i))
  | .revokeOld i => (s.calls.get i).bind (fun c => s.advance hash ttl c (.revokeOld i))
  | .create i newId raw =>
    (s.calls.get i).bind (fun c => s.advance hash ttl c (.create i newId raw))
  | .revokeFamily i => (s.calls.get i).bind (fun c => s.advance hash ttl c (.revokeFamily i))

section Steps

variable {hash ttl} {s} {newId : String} {req : RefreshRequest}

inductive Moves (hash : String → String) (ttl : Int) (s : Server) : AuthAct → Server → Prop
  | tick (nanos : Nat) : Moves hash ttl s (.tick nanos) { s with now := s.now + nanos }
  | lookup (i : Nat) (req : RefreshRequest) (hnew : s.calls.get i = none) :
      Moves hash ttl s (.lookup i req)
        { s with calls := s.calls.put ⟨i, req, (judge hash s.now req s.db).phase⟩ }
  | refuse (c : RefreshCall) (sess : Session) (reply : Reply) (hmem : c ∈ s.calls.rows)
      (hphase : c.phase = .found sess) (hcheck : checkUser sess s.db = .error reply) :
      Moves hash ttl s (.loadUser c.id) (s.move c (.done reply) s.db)
  | accept (c : RefreshCall) (sess : Session) (user : User) (hmem : c ∈ s.calls.rows)
      (hphase : c.phase = .found sess) (hcheck : checkUser sess s.db = .ok user) :
      Moves hash ttl s (.loadUser c.id) (s.move c (.admitted sess user) s.db)
  | revokeOld (c : RefreshCall) (sess : Session) (user : User) (hmem : c ∈ s.calls.rows)
      (hphase : c.phase = .admitted sess user) :
      Moves hash ttl s (.revokeOld c.id)
        (s.move c (.rotated sess user) (revokeSession sess.id s.db))
  | create (c : RefreshCall) (sess : Session) (user : User) (newId raw : String)
      (hmem : c ∈ s.calls.rows) (hphase : c.phase = .rotated sess user)
      (hid : s.db.sessions.get newId = none) (hraw : getSessionByToken hash raw s.db = none) :
      Moves hash ttl s (.create c.id newId raw)
        { s.move c (.done (.renewed newId))
            (createSession (newSession hash ttl s.now c.req user newId raw) s.db) with
          ops := inherit s.ops sess.id newId }
  | revokeFamily (c : RefreshCall) (sess : Session) (hmem : c ∈ s.calls.rows)
      (hphase : c.phase = .reused sess) :
      Moves hash ttl s (.revokeFamily c.id)
        (s.move c (.done reuseReply) (revokeAllUserSessions sess.userId s.db))
  | begin (j : Nat) (e : Ending) (user : String) (hnew : s.ops.get j = none) :
      Moves hash ttl s (.begin j e user)
        { s with ops := s.ops.put ⟨j, user, e.statements, userSessions user s.db⟩ }
  | exec (op : Operation) (stmt : Statement) (rest : List Statement) (hmem : op ∈ s.ops.rows)
      (hpending : op.pending = stmt :: rest) :
      Moves hash ttl s (.exec op.id)
        { s with db := stmt.exec op.user s.db, ops := s.ops.put { op with pending := rest } }

theorem step_moves {t : Server} {a : AuthAct} (h : step hash ttl s a = some t) :
    Moves hash ttl s a t := by
  revert h
  fun_cases step hash ttl s a
  -- the paths that end without a successor are closed here
  any_goals rintro ⟨⟩
  · exact .tick _
  · next hn => exact .lookup _ _ hn
  · next hn => exact .begin _ _ _ hn
  · next op hg stmt rest hpen =>
    obtain ⟨hm, rfl⟩ := get_eq_some_iff.mp hg
    exact .exec op stmt rest hm hpen
  all_goals
    intro h
    obtain ⟨c, hg, hadv⟩ := bind_eq_some_iff.mp h
    obtain ⟨hm, rfl⟩ := get_eq_some_iff.mp hg
    revert hadv
    simp only [advance]
    split <;> try rintro ⟨⟩
  · next sess hph =>
    split <;> rintro ⟨⟩
    · next reply hchk => exact .refuse c sess reply hm hph hchk
    · next user hchk => exact .accept c sess user hm hph hchk
  · next sess user hph => exact .revokeOld c sess user hm hph
  · next sess user hph =>
    split_ifs with hn <;> rintro ⟨⟩
    exact .create c sess user _ _ hm hph hn.1 hn.2
  · next sess hph => exact .revokeFamily c sess hm hph

theorem mem_inherit {ops : Keyed Operation.id} {source : String} {op' : Operation} :
    op' ∈ (inherit ops source newId).rows ↔
      ∃ op ∈ ops.rows, (if op.old.contains source then op.adopting newId else op) = op' :=
  mem_updateWhere

theorem checkUser_ok {user : User} (h : checkUser sess db = .ok user) :
    getUserByID sess.userId db = some user ∧ user.id = sess.userId ∧ user.active := by
  revert h
  fun_cases checkUser sess db
  all_goals rintro ⟨⟩
  next hg hact => exact ⟨hg, key_of_get hg, by simpa using hact⟩

theorem judge_usable {now : Int} (h : judge hash now req db = .usable sess) :
    getSessionByToken hash req.refreshToken db = some sess ∧ sess.revoked = false := by
  revert h
  fun_cases judge hash now req db
  all_goals rintro ⟨⟩
  next hg _ husa =>
    simp only [Session.isUsable, Bool.not_eq_true', Bool.not_eq_false, Bool.and_eq_true] at husa
    exact ⟨hg, husa.1⟩

end Steps

end Server

end ETradie.Auth
