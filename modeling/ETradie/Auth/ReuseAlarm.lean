import ETradie.Auth.Sessions

namespace ETradie.Auth

open Kernel

variable (userId : String) (now : Int)

def Session.isActive (sess : Session) : Bool :=
  sess.userId = userId && !sess.revoked && decide (now < sess.expiresAt)

def countActiveSessions (db : Db) : Nat := db.sessions.rows.countP (Session.isActive userId now)

def isOldestSession (db : Db) : Option String → Bool
  | none => db.sessions.rows.all (fun r => !r.isActive userId now)
  | some k =>
    (db.sessions.get k).any (fun sess => sess.isActive userId now &&
      db.sessions.rows.all (fun r =>
        !r.isActive userId now || decide (sess.createdAt ≤ r.createdAt)))

def revokeOldestSession (oldest : Option String) (db : Db) : Db :=
  match oldest with
  | some k => revokeSession k db
  | none => db

def loginSession (hash : String → String) (ttl : Int) (maxSessionsPerUser : Nat) (now : Int)
    (req : RefreshRequest) (user : User) (oldest : Option String) (newId raw : String) (db : Db) :
    Db :=
  let db :=
    if maxSessionsPerUser ≤ countActiveSessions user.id now db then revokeOldestSession oldest db
    else db
  createSession (newSession hash ttl now req user newId raw) db

def handleLogout (hash : String → String) (req : RefreshRequest) (db : Db) : Db :=
  if req.refreshToken = "" then db
  else
    match getSessionByToken hash req.refreshToken db with
    | some sess => revokeSession sess.id db
    | none => db

structure History where
  db : Db
  now : Int
  exchanged : List String := []

inductive HistoryAct where
  | tick (nanos : Nat)
  | login (req : RefreshRequest) (userId : String) (oldest : Option String) (newId raw : String)
  | refresh (req : RefreshRequest) (newId raw : String)
  | logout (req : RefreshRequest)
deriving DecidableEq

namespace History

variable (hash : String → String) (ttl : Int) (maxSessionsPerUser : Nat)

def isNew (s : History) (newId raw : String) : Bool :=
  (s.db.sessions.get newId).isNone &&
    s.db.sessions.rows.all (·.refreshToken ≠ hash raw) && hash raw ∉ s.exchanged

def answer (s : History) (req : RefreshRequest) (newId raw : String) : Reply × Db :=
  handleRefresh hash ttl s.now req newId raw s.db

def step (s : History) : HistoryAct → Option History
  | .tick nanos => some { s with now := s.now + nanos }
  | .login req userId oldest newId raw =>
    match getUserByID userId s.db with
    | some user =>
      if user.active && s.isNew hash newId raw && isOldestSession user.id s.now s.db oldest then
        some { s with
          db := loginSession hash ttl maxSessionsPerUser s.now req user oldest newId raw s.db }
      else none
    | none => none
  | .refresh req newId raw =>
    if s.isNew hash newId raw then
      let r := s.answer hash ttl req newId raw
      some { s with
        db := r.2
        exchanged :=
          if r.1 = .renewed newId then hash req.refreshToken :: s.exchanged else s.exchanged }
    else none
  | .logout req => some { s with db := handleLogout hash req s.db }

def Replays (s : History) (req : RefreshRequest) : Prop :=
  req.refreshToken ≠ "" ∧ hash req.refreshToken ∈ s.exchanged ∧
    ∃ sess, getSessionByToken hash req.refreshToken s.db = some sess ∧ sess.isExpired s.now = false

structure Exact (s : History) (req : RefreshRequest) (newId raw : String) : Prop where
  alarm : (s.answer hash ttl req newId raw).1 = reuseReply ↔ s.Replays hash req
  family : (s.answer hash ttl req newId raw).1 = reuseReply →
    ∀ sess, getSessionByToken hash req.refreshToken s.db = some sess →
    ∀ k row, (s.answer hash ttl req newId raw).2.sessions.get k = some row →
      row.userId = sess.userId → row.revoked = true
  spared : (s.answer hash ttl req newId raw).1 ≠ reuseReply →
    (s.answer hash ttl req newId raw).1 ≠ .renewed newId →
    (s.answer hash ttl req newId raw).2 = s.db

def ExactAt (s : History) : HistoryAct → Prop
  | .refresh req newId raw => s.Exact hash ttl req newId raw
  | _ => True

def Untouched (s : History) : HistoryAct → Prop
  | .refresh req _ _ => ∀ sess, req.refreshToken ≠ "" →
      getSessionByToken hash req.refreshToken s.db = some sess →
      sess.isExpired s.now = false → sess.revoked = true → hash req.refreshToken ∈ s.exchanged
  | _ => True

end History

variable {hash : String → String} {db : Db} {sess : Session} {k : String}

section Spent

variable {exchanged : List String}

def Spent (hash : String → String) (exchanged : List String) (db : Db) : Prop :=
  ∀ token sess, hash token ∈ exchanged → getSessionByToken hash token db = some sess →
    sess.revoked = true

theorem Spent.withdraw (h : Spent hash exchanged db) (p : Session → Bool) :
    Spent hash exchanged (withdraw p db) := by
  intro token sess hm hg
  rw [getSessionByToken_withdraw, Option.map_eq_some_iff] at hg
  obtain ⟨old, ho, rfl⟩ := hg
  split
  · rfl
  · exact h token old hm ho

theorem Spent.createSession (h : Spent hash exchanged db) (hn : db.sessions.get sess.id = none)
    (htok : sess.refreshToken ∉ exchanged) : Spent hash exchanged (createSession sess db) := by
  intro token found hm hg
  have hne : sess.refreshToken ≠ hash token := by
    intro heq
    exact htok (heq ▸ hm)
  rw [getSessionByToken_createSession hn hne] at hg
  exact h token found hm hg

theorem Spent.exchange {token : String} (h : Spent hash exchanged db)
    (hg : getSessionByToken hash token db = some sess) :
    Spent hash (hash token :: exchanged) (revokeSession sess.id db) := by
  intro token' found hm hg'
  rcases List.mem_cons.mp hm with hsm | ho
  · -- the lookup only sees the hash
    have hfnd : getSessionByToken hash token' db = some sess := by
      rw [← hg, getSessionByToken, getSessionByToken, hsm]
    rw [revokeSession, getSessionByToken_withdraw, hfnd, Option.map_some] at hg'
    simp only [if_true, Option.some.injEq] at hg'
    rw [← hg']
    rfl
  · exact h.withdraw _ token' found ho hg'

theorem get_withdraw_eq_none {p : Session → Bool} (h : db.sessions.get k = none) :
    (withdraw p db).sessions.get k = none := by
  rw [get_withdraw, h]
  rfl

end Spent

variable {ttl : Int} {req : RefreshRequest} {newId raw : String} {reply : Reply}

section Answers

variable {now}
theorem judge_eq_reuse_iff :
    judge hash now req db = .reuse sess ↔
      req.refreshToken ≠ "" ∧ getSessionByToken hash req.refreshToken db = some sess ∧
        sess.revoked ∧ sess.isExpired now = false := by
  unfold judge
  split
  · next hemp => simp [hemp]
  · next hpre =>
    cases getSessionByToken hash req.refreshToken db with
    | none => simp
    | some found =>
      simp only [Option.some.injEq]
      by_cases hreu : (found.revoked && !found.isExpired now) = true
      · rw [if_pos hreu]
        simp only [Bool.and_eq_true, Bool.not_eq_true'] at hreu
        constructor
        · rintro ⟨⟩
          exact ⟨hpre, rfl, hreu⟩
        · rintro ⟨-, rfl, -⟩
          rfl
      · rw [if_neg hreu]
        refine iff_of_false ?_ ?_
        · split <;> simp
        · rintro ⟨-, rfl, hrev, hexpired⟩
          simp [hrev, hexpired] at hreu

theorem judge_refused_ne (h : judge hash now req db = .refused reply) :
    reply ≠ reuseReply ∧ ∀ k, reply ≠ .renewed k := by
  revert h
  fun_cases judge hash now req db
  all_goals rintro ⟨⟩
  all_goals exact ⟨by decide, by simp⟩

theorem checkUser_error_ne (h : checkUser sess db = .error reply) :
    reply ≠ reuseReply ∧ ∀ k, reply ≠ .renewed k := by
  revert h
  fun_cases checkUser sess db
  all_goals rintro ⟨⟩
  all_goals exact ⟨by decide, by simp⟩

theorem handleRefresh_cases (hash : String → String) (ttl now : Int) (req : RefreshRequest)
    (newId raw : String) (db : Db) :
    (∃ sess, judge hash now req db = .reuse sess ∧
      handleRefresh hash ttl now req newId raw db =
        (reuseReply, revokeAllUserSessions sess.userId db)) ∨
    ((∀ sess, judge hash now req db ≠ .reuse sess) ∧ ∃ reply, reply ≠ reuseReply ∧
      (∀ k, reply ≠ .renewed k) ∧ handleRefresh hash ttl now req newId raw db = (reply, db)) ∨
    ((∀ sess, judge hash now req db ≠ .reuse sess) ∧ ∃ sess user,
      getSessionByToken hash req.refreshToken db = some sess ∧
      handleRefresh hash ttl now req newId raw db =
        (.renewed newId, createSession (newSession hash ttl now req user newId raw)
          (revokeSession sess.id db))) := by
  cases hjud : judge hash now req db with
  | refused reply =>
    obtain ⟨hreu, hren⟩ := judge_refused_ne hjud
    refine .inr (.inl ⟨by simp, reply, hreu, hren, ?_⟩)
    simp only [handleRefresh, hjud]
  | reuse sess =>
    refine .inl ⟨sess, rfl, ?_⟩
    simp only [handleRefresh, hjud]
  | usable sess =>
    cases hu : checkUser sess db with
    | error reply =>
      obtain ⟨hreu, hren⟩ := checkUser_error_ne hu
      refine .inr (.inl ⟨by simp, reply, hreu, hren, ?_⟩)
      simp only [handleRefresh, hjud, hu]
    | ok user =>
      refine .inr (.inr ⟨by simp, sess, user, (Server.judge_usable hjud).1, ?_⟩)
      simp only [handleRefresh, hjud, hu]

end Answers

namespace History

variable {maxSessionsPerUser : Nat}
variable {s t : History}

theorem isNew_iff :
    s.isNew hash newId raw ↔
      s.db.sessions.get newId = none ∧ (∀ r ∈ s.db.sessions.rows, r.refreshToken ≠ hash raw) ∧
        hash raw ∉ s.exchanged := by
  simp [isNew, and_assoc]

def Sound (hash : String → String) (s : History) : Prop := Spent hash s.exchanged s.db

theorem Sound.login {user : User} {oldest : Option String} (h : s.Sound hash)
    (hn : s.isNew hash newId raw) :
    Spent hash s.exchanged
      (loginSession hash ttl maxSessionsPerUser s.now req user oldest newId raw s.db) := by
  obtain ⟨hid, -, htok⟩ := isNew_iff.mp hn
  unfold loginSession
  split
  · unfold revokeOldestSession
    split
    · exact (h.withdraw _).createSession (get_withdraw_eq_none hid) htok
    · exact h.createSession hid htok
  · exact h.createSession hid htok

theorem Sound.logout (h : s.Sound hash) : Spent hash s.exchanged (handleLogout hash req s.db) := by
  unfold handleLogout
  split
  · exact h
  · split
    · exact h.withdraw _
    · exact h

theorem Sound.refresh (h : s.Sound hash) (hn : s.isNew hash newId raw) :
    Spent hash
      (if (s.answer hash ttl req newId raw).1 = .renewed newId then
        hash req.refreshToken :: s.exchanged else s.exchanged)
      (s.answer hash ttl req newId raw).2 := by
  obtain ⟨hid, htoks, htok⟩ := isNew_iff.mp hn
  unfold answer
  rcases handleRefresh_cases hash ttl s.now req newId raw s.db with
      ⟨sess, -, heq⟩ | ⟨-, reply, -, hren, heq⟩ | ⟨-, sess, user, hg, heq⟩
  · rw [heq]
    exact h.withdraw _
  · rw [heq, if_neg (hren newId)]
    exact h
  · rw [heq, if_pos rfl]
    refine (h.exchange hg).createSession (get_withdraw_eq_none hid) ?_
    intro hm
    rcases List.mem_cons.mp hm with hsm | ho
    · -- the session that was exchanged would have had the new token
      have hr := List.find?_some hg
      have hm' := List.mem_of_find?_eq_some hg
      refine htoks sess hm' ?_
      rw [of_decide_eq_true hr]
      exact hsm.symm
    · exact htok ho

theorem sound_step {a : HistoryAct} (h : s.Sound hash)
    (hst : s.step hash ttl maxSessionsPerUser a = some t) : t.Sound hash := by
  revert hst
  fun_cases step hash ttl maxSessionsPerUser s a
  all_goals rintro ⟨⟩
  · exact h
  · next hgrd =>
    simp only [Bool.and_eq_true] at hgrd
    exact h.login hgrd.1.2
  · exact h.refresh ‹_›
  · exact h.logout

theorem answer_eq_reuseReply_iff :
    (s.answer hash ttl req newId raw).1 = reuseReply ↔
      ∃ sess, req.refreshToken ≠ "" ∧ getSessionByToken hash req.refreshToken s.db = some sess ∧
        sess.revoked ∧ sess.isExpired s.now = false := by
  simp only [← judge_eq_reuse_iff]
  unfold answer
  rcases handleRefresh_cases hash ttl s.now req newId raw s.db with
      ⟨sess, hjud, heq⟩ | ⟨hjud, reply, hreu, -, heq⟩ | ⟨hjud, sess, user, -, heq⟩
  · rw [heq]
    exact iff_of_true rfl ⟨sess, hjud⟩
  · rw [heq]
    exact iff_of_false hreu (fun ⟨sess, hss⟩ => hjud sess hss)
  · rw [heq]
    exact iff_of_false (by simp [reuseReply]) (fun ⟨sess, hss⟩ => hjud sess hss)

theorem revoked_of_alarm {row : Session} (hala : (s.answer hash ttl req newId raw).1 = reuseReply)
    (hfnd : getSessionByToken hash req.refreshToken s.db = some sess)
    (hg : (s.answer hash ttl req newId raw).2.sessions.get k = some row)
    (hu : row.userId = sess.userId) : row.revoked := by
  unfold answer at hala hg
  rcases handleRefresh_cases hash ttl s.now req newId raw s.db with
      ⟨sess', hjud, heq⟩ | ⟨-, reply, hreu, -, heq⟩ | ⟨-, sess', user, -, heq⟩
  · have hsm : sess' = sess := by
      have hss' := (judge_eq_reuse_iff.mp hjud).2.1
      rw [hfnd] at hss'
      exact (Option.some.inj hss').symm
    rw [heq, hsm] at hg
    exact revoked_of_revokeAll hg hu
  · rw [heq] at hala
    exact absurd hala hreu
  · rw [heq] at hala
    exact absurd hala (by simp [reuseReply])

theorem answer_snd_eq (hala : (s.answer hash ttl req newId raw).1 ≠ reuseReply)
    (hren : (s.answer hash ttl req newId raw).1 ≠ .renewed newId) :
    (s.answer hash ttl req newId raw).2 = s.db := by
  unfold answer at hala hren ⊢
  rcases handleRefresh_cases hash ttl s.now req newId raw s.db with
      ⟨sess, -, heq⟩ | ⟨-, reply, -, -, heq⟩ | ⟨-, sess, user, -, heq⟩
  · exact absurd (by rw [heq]) hala
  · rw [heq]
  · exact absurd (by rw [heq]) hren

theorem exact_iff_untouched (h : s.Sound hash) :
    s.Exact hash ttl req newId raw ↔ s.Untouched hash (.refresh req newId raw) := by
  constructor
  · intro hexact sess hpre hg hexpired hrev
    have hala : (s.answer hash ttl req newId raw).1 = reuseReply :=
      answer_eq_reuseReply_iff.mpr ⟨sess, hpre, hg, hrev, hexpired⟩
    exact (hexact.alarm.mp hala).2.1
  · intro hunt
    refine ⟨?_, fun hala sess hfnd k _ => revoked_of_alarm hala hfnd, answer_snd_eq⟩
    rw [answer_eq_reuseReply_iff]
    constructor
    · rintro ⟨sess, hpre, hg, hrev, hexpired⟩
      exact ⟨hpre, hunt sess hpre hg hexpired hrev, sess, hg, hexpired⟩
    · rintro ⟨hpre, hm, sess, hg, hexpired⟩
      exact ⟨sess, hpre, hg, h _ sess hm hg, hexpired⟩

theorem reuse_alarm_exact_iff (hash : String → String) (ttl : Int) (maxSessionsPerUser : Nat)
    (users : Keyed User.id) (now : Int) (as : List HistoryAct) :
    Along (step hash ttl maxSessionsPerUser) (ExactAt hash ttl)
        ⟨⟨users, Keyed.empty⟩, now, []⟩ as ↔
      Along (step hash ttl maxSessionsPerUser) (Untouched hash)
        ⟨⟨users, Keyed.empty⟩, now, []⟩ as := by
  refine along_congr (step hash ttl maxSessionsPerUser) (I := Sound hash) ?_ ?_ as ?_
  · intro s a t hs hst
    exact sound_step hs hst
  · intro s a t hs _
    cases a with
    | refresh req newId raw => exact exact_iff_untouched hs
    | tick nanos | login req userId oldest newId raw => exact Iff.rfl
    | logout req => exact Iff.rfl
  · intro _ _ hm
    cases hm

def secondDevice : List HistoryAct :=
  [.login ⟨"", "", "", ""⟩ "u" none "s1" "t1", .login ⟨"", "", "", ""⟩ "u" (some "s1") "s2" "t2"]

theorem evicted_session_raises_alarm :
    ∃ s, run (step id 100 1) ⟨⟨⟨[⟨"u", true, "", 0⟩], by decide⟩, Keyed.empty⟩, 0, []⟩
        secondDevice = some s ∧
      s.exchanged = [] ∧
      (s.db.sessions.get "s2").map (fun r => r.isUsable s.now) = some true ∧
      (s.answer id 100 ⟨"t1", "", "", ""⟩ "s3" "t3").1 = reuseReply ∧
      ((s.answer id 100 ⟨"t1", "", "", ""⟩ "s3" "t3").2.sessions.get "s2").map
        (fun r => r.isUsable s.now) = some false := by
  decide +kernel

end History

end ETradie.Auth
