import ETradie.Auth.Sessions

namespace ETradie.Auth

open Kernel List RefreshCall Keyed

namespace Server

variable (hash : String → String) (ttl : Int)

def exposes (db : Db) (c : RefreshCall) : Option Session :=
  match c.phase with
  | .found sess => if (getUserByID sess.userId db).any User.active then some sess else none
  | .admitted sess _ => some sess
  | .rotated sess _ => some sess
  | _ => none

def Ended (s : Server) : Prop :=
  ∀ op ∈ s.ops.rows, op.pending = [] →
    ∀ k ∈ op.old, ∀ row, s.db.sessions.get k = some row → row.revoked = true

def clear (s : Server) : AuthAct → Bool
  | .exec j =>
    (s.ops.get j).all (fun op =>
      op.pending.head? != some .revokeAllUserSessions ||
        s.calls.rows.all (fun c => (exposes s.db c).all (fun sess => !op.old.contains sess.id)))
  | _ => true

section Revocation

variable {hash ttl}
variable {db db' : Db} {s t : Server} {sess : Session} {stmt : Statement} {c : RefreshCall}
variable {now : Int} {req : RefreshRequest} {i : Nat} {k : String}

structure RevocationInv (s : Server) : Prop where
  read : ∀ c ∈ s.calls.rows, ∀ sess, c.held = some sess →
    ∃ row, s.db.sessions.get sess.id = some row ∧ row.userId = sess.userId
  account : ∀ c ∈ s.calls.rows, ∀ sess user,
    c.phase = .admitted sess user ∨ c.phase = .rotated sess user → user.id = sess.userId
  owned : ∀ op ∈ s.ops.rows, ∀ k ∈ op.old,
    ∃ row, s.db.sessions.get k = some row ∧ row.userId = op.user
  revoked : ∀ op ∈ s.ops.rows, Statement.revokeAllUserSessions ∉ op.pending →
    ∀ k ∈ op.old, ∀ row, s.db.sessions.get k = some row → row.revoked = true
  unexposed : ∀ op ∈ s.ops.rows, Statement.revokeAllUserSessions ∉ op.pending →
    ∀ c ∈ s.calls.rows, ∀ sess, exposes s.db c = some sess → sess.id ∉ op.old

theorem RevocationInv.ended (h : RevocationInv s) : s.Ended := by
  intro op hop hpen
  refine h.revoked op hop ?_
  rw [hpen]
  exact not_mem_nil

theorem exposes_congr (h : db'.users = db.users) (c : RefreshCall) :
    exposes db' c = exposes db c := by
  have hu : ∀ id, getUserByID id db' = getUserByID id db := by
    intro id
    rw [getUserByID, getUserByID, h]
  unfold exposes
  cases c.phase with
  | found _ => simp only [hu]
  | _ => rfl

theorem exposes_exec {userId : String} (h : exposes (stmt.exec userId db) c = some sess) :
    exposes db c = some sess := by
  unfold exposes at h ⊢
  split at h
  · next found _ =>
    obtain ⟨hany, heq⟩ := Option.ite_none_right_eq_some.mp h
    cases hg : getUserByID found.userId (stmt.exec userId db) with
    | none =>
      rw [hg] at hany
      cases hany
    | some u =>
      rw [hg] at hany
      obtain ⟨u', hg', hact'⟩ := active_of_exec hg hany
      rw [hg', Option.any_some, if_pos hact']
      exact heq
  · exact h
  · exact h
  · cases h

theorem mem_of_judge (h : held ⟨i, req, (judge hash now req db).phase⟩ = some sess) :
    sess ∈ db.sessions.rows := by
  revert h
  fun_cases judge hash now req db
  all_goals rintro ⟨⟩
  · next hg _ => exact mem_of_find?_eq_some hg
  · next hg _ _ => exact mem_of_find?_eq_some hg

theorem unrevoked_of_judge (h : exposes db ⟨i, req, (judge hash now req db).phase⟩ = some sess) :
    sess ∈ db.sessions.rows ∧ sess.revoked = false := by
  cases hjud : judge hash now req db with
  | usable _ =>
    rw [hjud] at h
    obtain ⟨hg, hrev⟩ := judge_usable hjud
    obtain ⟨-, heq⟩ := Option.ite_none_right_eq_some.mp h
    cases heq
    exact ⟨mem_of_find?_eq_some hg, hrev⟩
  | _ =>
    rw [hjud] at h
    cases h

variable {user : String}

theorem stored_later (hon : OnlyRevokes db db')
    (hsto : ∃ row, db.sessions.get k = some row ∧ row.userId = user) :
    ∃ row, db'.sessions.get k = some row ∧ row.userId = user := by
  obtain ⟨row, hrow, hu⟩ := hsto
  obtain ⟨row', hrow', hu', -⟩ := hon k row hrow
  exact ⟨row', hrow', hu'.trans hu⟩

theorem revoked_later (hon : OnlyRevokes db db')
    (hsto : ∃ row, db.sessions.get k = some row ∧ row.userId = user)
    (hrvk : ∀ row, db.sessions.get k = some row → row.revoked) :
    ∀ row, db'.sessions.get k = some row → row.revoked := by
  intro row hrow
  obtain ⟨row₀, hrow₀, -⟩ := hsto
  obtain ⟨row', hrow', -, hrev⟩ := hon k row₀ hrow₀
  rw [hrow] at hrow'
  cases hrow'
  exact hrev (hrvk row₀ hrow₀)

theorem RevocationInv.later (h : RevocationInv s) (hon : OnlyRevokes s.db db')
    (hexposed : ∀ c sess, exposes db' c = some sess → exposes s.db c = some sess) :
    RevocationInv { s with db := db' } where
  read := fun c hc sess hss => stored_later hon (h.read c hc sess hss)
  account := h.account
  owned := fun op hop k hk => stored_later hon (h.owned op hop k hk)
  revoked := fun op hop hrs k hk =>
    revoked_later hon (h.owned op hop k hk) (h.revoked op hop hrs k hk)
  unexposed := fun op hop hrs c hc sess hss =>
    h.unexposed op hop hrs c hc sess (hexposed c sess hss)

theorem RevocationInv.withdraw (h : RevocationInv s) (p : Session → Bool) :
    RevocationInv { s with db := Auth.withdraw p s.db } :=
  h.later (.withdraw p s.db) (fun c _ hss => exposes_congr rfl c ▸ hss)

theorem RevocationInv.put (h : RevocationInv s) (c₁ : RefreshCall)
    (hrd : ∀ sess, c₁.held = some sess →
      ∃ row, s.db.sessions.get sess.id = some row ∧ row.userId = sess.userId)
    (hacc : ∀ sess user,
      c₁.phase = .admitted sess user ∨ c₁.phase = .rotated sess user → user.id = sess.userId)
    (hexposed : ∀ op ∈ s.ops.rows, Statement.revokeAllUserSessions ∉ op.pending →
      ∀ sess, exposes s.db c₁ = some sess → sess.id ∉ op.old) :
    RevocationInv { s with calls := s.calls.put c₁ } :=
  { h with
    read := forall_mem_put hrd h.read
    account := forall_mem_put hacc h.account
    unexposed := fun op hop hrs => forall_mem_put (hexposed op hop hrs) (h.unexposed op hop hrs) }

theorem RevocationInv.done (h : RevocationInv s) (c : RefreshCall) (reply : Reply) :
    RevocationInv { s with calls := s.calls.put { c with phase := .done reply } } :=
  h.put _ (by rintro _ ⟨⟩) (by simp) (by rintro _ _ _ _ ⟨⟩)

theorem RevocationInv.inherit {source newId : String} (h : RevocationInv s)
    (hn : ∀ op ∈ s.ops.rows, source ∈ op.old →
      ∃ row, s.db.sessions.get newId = some row ∧ row.userId = op.user)
    (hfe : ∀ op ∈ s.ops.rows, Statement.revokeAllUserSessions ∉ op.pending → source ∉ op.old) :
    RevocationInv { s with ops := Server.inherit s.ops source newId } := by
  -- an operation past its revocation does not know the session
  have hsm : ∀ op' ∈ (Server.inherit s.ops source newId).rows,
      Statement.revokeAllUserSessions ∉ op'.pending → op' ∈ s.ops.rows := by
    intro op' hop' hrs
    obtain ⟨op, hop, rfl⟩ := mem_inherit.mp hop'
    split at hrs
    · next ho => exact absurd (by simpa using ho) (hfe op hop hrs)
    · next ho =>
      rw [if_neg ho]
      exact hop
  refine
    { h with
      owned := ?_
      revoked := fun op hop hrs => h.revoked op (hsm op hop hrs) hrs
      unexposed := fun op hop hrs => h.unexposed op (hsm op hop hrs) hrs }
  intro op' hop' k hk
  obtain ⟨op, hop, rfl⟩ := mem_inherit.mp hop'
  split at hk
  · next ho =>
    rw [if_pos ho]
    rcases mem_cons.mp hk with rfl | hk
    · exact hn op hop (by simpa using ho)
    · exact h.owned op hop k hk
  · next ho =>
    rw [if_neg ho]
    exact h.owned op hop k hk

theorem RevocationInv.create {user : User} {newId raw : String} (h : RevocationInv s)
    (hm : c ∈ s.calls.rows) (hph : c.phase = .rotated sess user)
    (hid : s.db.sessions.get newId = none) :
    RevocationInv
      { s.move c (.done (.renewed newId))
          (createSession (newSession hash ttl s.now c.req user newId raw) s.db) with
        ops := Server.inherit s.ops sess.id newId } := by
  refine ((h.later (.createSession hid) (fun c _ hss => exposes_congr rfl c ▸ hss)).done c
    (.renewed newId)).inherit ?_ ?_
  · -- the successor belongs to the user of the session
    intro op hop ho
    obtain ⟨row, hrow, hu⟩ := h.owned op hop sess.id ho
    obtain ⟨row', hrow', hu'⟩ := h.read c hm sess (by simp [held, hph])
    rw [hrow] at hrow'
    cases hrow'
    refine ⟨_, get_put_self s.db.sessions _, ?_⟩
    exact (h.account c hm sess user (.inr hph)).trans (hu'.symm.trans hu)
  · intro op hop hrs
    exact h.unexposed op hop hrs c hm sess (by simp [exposes, hph])

theorem RevocationInv.exec {op : Operation} {rest : List Statement} (h : RevocationInv s)
    (hclr : s.clear (.exec op.id)) (hm : op ∈ s.ops.rows)
    (hpen : op.pending = stmt :: rest) :
    RevocationInv
      { s with
        db := stmt.exec op.user s.db
        ops := s.ops.put { op with pending := rest } } := by
  have hlat := h.later (.exec op.user stmt s.db) (fun _ _ => exposes_exec)
  simp only [clear, Keyed.get_key hm, Option.all_some, hpen, head?_cons] at hclr
  have hbef : stmt ≠ .revokeAllUserSessions → Statement.revokeAllUserSessions ∉ rest →
      Statement.revokeAllUserSessions ∉ op.pending := by
    intro hne hrs
    rw [hpen]
    exact not_mem_cons_of_ne_of_not_mem (Ne.symm hne) hrs
  refine
    { hlat with
      owned := Keyed.forall_mem_put (hlat.owned op hm) hlat.owned
      revoked := Keyed.forall_mem_put ?_ hlat.revoked
      unexposed := Keyed.forall_mem_put ?_ hlat.unexposed }
  · intro hrs k hk
    by_cases hrev : stmt = .revokeAllUserSessions
    · intro _ hrow
      obtain ⟨row', hrow', hu⟩ := hlat.owned op hm k hk
      rw [hrow] at hrow'
      cases hrow'
      subst hrev
      exact revoked_of_revokeAll hrow hu
    · exact hlat.revoked op hm (hbef hrev hrs) k hk
  · intro hrs r hr q hq
    by_cases hrev : stmt = .revokeAllUserSessions
    · have hexposed := exposes_exec hq
      subst hrev
      simp only [bne_self_eq_false, Bool.false_or, all_eq_true] at hclr
      have hno := hclr r hr
      rw [hexposed] at hno
      simpa using hno
    · exact hlat.unexposed op hm (hbef hrev hrs) r hr q hq

theorem RevocationInv.preserved {a : AuthAct} (h : RevocationInv s) (hclr : s.clear a)
    (hst : step hash ttl s a = some t) : RevocationInv t := by
  cases step_moves hst with
  | tick _ => exact ⟨h.read, h.account, h.owned, h.revoked, h.unexposed⟩
  | lookup i req hn =>
    refine h.put _ ?_ ?_ ?_
    · intro sess hss
      exact ⟨sess, get_key (mem_of_judge hss), rfl⟩
    · intro sess user hor
      cases hjud : judge hash s.now req s.db <;> simp [hjud, Verdict.phase] at hor
    · intro op hop hrs sess hss ho
      -- a session that the operation has revoked is not read as usable
      obtain ⟨hm, hrev⟩ := unrevoked_of_judge hss
      have := h.revoked op hop hrs sess.id ho sess (get_key hm)
      rw [hrev] at this
      cases this
  | refuse c sess reply hm hph hchk => exact h.done c reply
  | accept c sess user hm hph hchk =>
    obtain ⟨hu, hid, hact⟩ := checkUser_ok hchk
    refine h.put _ ?_ ?_ ?_
    · rintro q ⟨⟩
      exact h.read c hm sess (by simp [held, hph])
    · rintro q u (heq | heq)
      · cases heq
        exact hid
      · cases heq
    · rintro op hop hrs q ⟨⟩
      exact h.unexposed op hop hrs c hm sess (by simp [exposes, hph, hu, hact])
  | revokeOld c sess user hm hph =>
    refine (h.put _ ?_ ?_ ?_).withdraw _
    · rintro q ⟨⟩
      exact h.read c hm sess (by simp [held, hph])
    · rintro q u (heq | heq)
      · cases heq
      · cases heq
        exact h.account c hm sess user (.inl hph)
    · rintro op hop hrs q ⟨⟩
      exact h.unexposed op hop hrs c hm sess (by simp [exposes, hph])
  | create c sess user _ _ hm hph hid _ => exact h.create hm hph hid
  | revokeFamily c sess hm hph => exact (h.done c reuseReply).withdraw _
  | begin j e user hn =>
    refine ⟨h.read, h.account, ?_, ?_, ?_⟩
    · refine forall_mem_put ?_ h.owned
      intro k hk
      obtain ⟨row, hrow, rfl⟩ := mem_map.mp hk
      obtain ⟨hrw, hu⟩ := mem_filter.mp hrow
      exact ⟨row, get_key hrw, by simpa using hu⟩
    · exact forall_mem_put (absurd e.revokes) h.revoked
    · exact forall_mem_put (absurd e.revokes) h.unexposed
  | exec op _ _ hm hpen => exact h.exec hclr hm hpen

theorem clear_ending_is_final (s : Server) (as : List AuthAct) (hcalls : s.calls = Keyed.empty)
    (hops : s.ops = Keyed.empty)
    (halong : Along (step hash ttl) (fun s a => s.clear a = true) s as) :
    Throughout (step hash ttl) Ended s as := by
  have hca : ∀ c, c ∉ s.calls.rows := by simp [hcalls]
  have hop : ∀ op, op ∉ s.ops.rows := by simp [hops]
  have hsta : RevocationInv s :=
    ⟨fun c hc => absurd hc (hca c), fun c hc => absurd hc (hca c),
      fun op h => absurd h (hop op), fun op h => absurd h (hop op), fun op h => absurd h (hop op)⟩
  refine (throughout_of_along _ ?_ hsta halong).mono _ ?_
  · intro s a t hs hcd hst
    exact hs.preserved hcd hst
  · intro t ht
    exact ht.ended

end Revocation

section Interleavings

def signedIn : Server where
  db :=
    { users := Keyed.empty.put ⟨"u1", true, "old", 1⟩
      sessions := Keyed.empty.put ⟨"s0", "u1", "t0", "ua", "ip", 1000, 0, false⟩ }
  now := 10

def refreshOf (token : String) : RefreshRequest := ⟨token, "", "ua", "ip"⟩

def overtaken (e : Ending) : List AuthAct :=
  [.lookup 1 (refreshOf "t0"), .loadUser 1, .revokeOld 1, .begin 9 e "u1"] ++
    e.statements.map (fun _ => .exec 9) ++ [.create 1 "s1" "t1"]

def inTime (e : Ending) : List AuthAct :=
  [.lookup 1 (refreshOf "t0"), .begin 9 e "u1", .loadUser 1, .revokeOld 1, .create 1 "s1" "t1"] ++
    e.statements.map (fun _ => .exec 9) ++ [.lookup 2 (refreshOf "t1"), .revokeFamily 2]

def aftermath (as : List AuthAct) : Option (List (Bool × List String) × List (String × Bool)) :=
  (run (step id 1000) signedIn as).map (fun t =>
    (t.ops.rows.map (fun op => (op.pending.isEmpty, op.old)),
      t.db.sessions.rows.map (fun r => (r.id, r.revoked))))

theorem not_ended_of_aftermath {as : List AuthAct} {old : List String}
    {sessions : List (String × Bool)} (h : aftermath as = some ([(true, old)], sessions))
    (ho : "s1" ∈ old) (hlv : ("s1", false) ∈ sessions) :
    ¬ Throughout (step id 1000) Ended signedIn as := by
  intro hthr
  obtain ⟨t, hrun, hpa⟩ := Option.map_eq_some_iff.mp h
  obtain ⟨hops, hss⟩ := Prod.mk.inj hpa
  obtain ⟨op, rest, hrw, hop, -⟩ := map_eq_cons_iff.mp hops
  obtain ⟨hret, rfl⟩ := Prod.mk.inj hop
  rw [← hss] at hlv
  obtain ⟨row, hrow, hrow_eq⟩ := mem_map.mp hlv
  obtain ⟨hid, hunr⟩ := Prod.mk.inj hrow_eq
  have hg : t.db.sessions.get "s1" = some row := hid ▸ get_key hrow
  have hrvk := (hthr.final _ hrun) op (by simp [hrw]) (isEmpty_iff.mp hret) "s1" ho row hg
  rw [hunr] at hrvk
  cases hrvk

def endings : List Ending := [.changePassword "new", .resetPassword "new", .deactivate, .logoutAll]

theorem overtaken_session_survives :
    endings.map (fun e => aftermath (overtaken e)) =
        List.replicate 4 (some ([(true, ["s1", "s0"])], [("s0", true), ("s1", false)])) ∧
      ∀ e ∈ endings, ¬ Throughout (step id 1000) Ended signedIn (overtaken e) := by
  have hall : ∀ e ∈ endings, aftermath (overtaken e) =
      some ([(true, ["s1", "s0"])], [("s0", true), ("s1", false)]) := by
    decide +kernel
  constructor
  · refine eq_replicate_iff.mpr ⟨rfl, ?_⟩
    intro _ hrep
    obtain ⟨e, he, rfl⟩ := mem_map.mp hrep
    exact hall e he
  · intro e he
    exact not_ended_of_aftermath (hall e he) (by decide) (by decide)

theorem session_ended_in_time :
    Throughout (step id 1000) Ended signedIn (inTime (.changePassword "new")) ∧
      aftermath (inTime (.changePassword "new")) =
        some ([(true, ["s1", "s0"])], [("s0", true), ("s1", true)]) :=
  ⟨clear_ending_is_final signedIn (inTime (.changePassword "new")) rfl rfl (by decide +kernel),
    by decide +kernel⟩

end Interleavings

end Server

end ETradie.Auth
