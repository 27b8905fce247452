import ETradie.Auth.Sessions

namespace ETradie.Auth

open Kernel Keyed

variable (c : RefreshCall)

namespace RefreshCall

def rotating : Bool :=
  match c.phase with
  | .found _ => true
  | .admitted _ _ => true
  | .rotated _ _ => true
  | _ => false

def finished : Bool :=
  match c.phase with
  | .done _ => true
  | _ => false

def session : Option String :=
  match c.phase with
  | .done (.renewed newId) => some newId
  | _ => none

def alarmed : Bool :=
  match c.phase with
  | .reused _ => true
  | .done (.error _ _) => true
  | _ => false

def spends : Bool :=
  match c.phase with
  | .found _ => false
  | .admitted _ _ => false
  | _ => true

end RefreshCall

def AuthAct.presents (token : String) : AuthAct → Prop
  | .lookup _ req => req.refreshToken = token
  | .begin _ _ _ => False
  | .exec _ => False
  | _ => True

structure TokenOf (hash : String → String) (token k user : String) (db : Db) : Prop where
  nonempty : token ≠ ""
  session : ∃ sess, getSessionByToken hash token db = some sess ∧ sess.id = k ∧ sess.userId = user
  active : ∃ u, getUserByID user db = some u ∧ u.active = true

namespace Server

variable (hash : String → String) (ttl : Int)

def SingleUse (s : Server) : Prop :=
  (∀ c ∈ s.calls.rows, ∀ c' ∈ s.calls.rows,
      c.session ≠ none → c'.session ≠ none → c = c') ∧
    ∀ c ∈ s.calls.rows, ∀ c' ∈ s.calls.rows,
      c ≠ c' → c.finished = true → c'.finished = true →
      ∀ r ∈ s.calls.rows, ∀ newId, r.session = some newId →
      ∀ row, s.db.sessions.get newId = some row → row.isUsable s.now = false

def unrushed (s : Server) : AuthAct → Bool
  | .lookup _ req =>
    s.calls.rows.all (fun c => !c.rotating) &&
      (getSessionByToken hash req.refreshToken s.db).all (fun sess => !sess.isExpired s.now)
  | _ => true

section Rotation

variable {hash ttl} {token k user : String} {s t : Server} {db : Db} {c}

structure RotationInv (hash : String → String) (token k user : String) (s : Server) : Prop where
  presented : TokenOf hash token k user s.db
  held : ∀ c ∈ s.calls.rows, ∀ sess, c.held = some sess → sess.id = k ∧ sess.userId = user
  account : ∀ c ∈ s.calls.rows, ∀ u, c.account = some u → u.id = user
  single : ∀ c ∈ s.calls.rows, ∀ c' ∈ s.calls.rows,
    (c.rotating = true ∨ c.session ≠ none) → (c'.rotating = true ∨ c'.session ≠ none) →
    c.id = c'.id
  spent : ∀ c ∈ s.calls.rows, c.spends = true →
    ∀ sess, getSessionByToken hash token s.db = some sess → sess.revoked = true
  calm : ∀ c ∈ s.calls.rows, c.alarmed = true → ∀ c' ∈ s.calls.rows, c'.rotating = false
  owned : ∀ c ∈ s.calls.rows, ∀ newId, c.session = some newId →
    ∃ row, s.db.sessions.get newId = some row ∧ row.userId = user
  swept : ∀ c ∈ s.calls.rows, c.alarmed = true → c.finished = true →
    ∀ c' ∈ s.calls.rows, ∀ newId, c'.session = some newId →
    ∀ row, s.db.sessions.get newId = some row → row.revoked = true

theorem session_or_alarmed (h : c.rotating = false) : c.session ≠ none ∨ c.alarmed := by
  unfold RefreshCall.rotating at h
  unfold RefreshCall.session RefreshCall.alarmed
  rcases hph : c.phase with _ | _ | _ | _ | (_ | _) <;> simp_all

theorem silent_of_alarmed (h : c.alarmed) : c.rotating = false ∧ c.session = none := by
  unfold RefreshCall.alarmed at h
  unfold RefreshCall.rotating RefreshCall.session
  rcases hph : c.phase with _ | _ | _ | _ | (_ | _) <;> simp_all

theorem not_rotating_of_finished (h : c.finished) : c.rotating = false := by
  unfold RefreshCall.finished at h
  unfold RefreshCall.rotating
  cases hph : c.phase <;> simp_all

theorem RotationInv.singleUse (h : RotationInv hash token k user s) : s.SingleUse := by
  have hone : ∀ c ∈ s.calls.rows, ∀ c' ∈ s.calls.rows,
      c.session ≠ none → c'.session ≠ none → c = c' := by
    intro c hc c' hc' hcs hcs'
    exact eq_of_key_eq s.calls.unique hc hc' (h.single c hc c' hc' (.inr hcs) (.inr hcs'))
  refine ⟨hone, ?_⟩
  intro c hc c' hc' hne hfin hfin' r hr newId hn row hrow
  -- one of the two has ended the family
  have hala : ∃ q ∈ s.calls.rows, q.alarmed ∧ q.finished := by
    rcases session_or_alarmed (not_rotating_of_finished hfin) with hs | ha
    · rcases session_or_alarmed (not_rotating_of_finished hfin') with hs' | ha'
      · exact absurd (hone c hc c' hc' hs hs') hne
      · exact ⟨c', hc', ha', hfin'⟩
    · exact ⟨c, hc, ha, hfin⟩
  obtain ⟨q, hq, hqa, hqf⟩ := hala
  have hrev := h.swept q hq hqa hqf r hr newId hn row hrow
  simp [Session.isUsable, hrev]

theorem RotationInv.alone (h : RotationInv hash token k user s) (hc : c ∈ s.calls.rows)
    (hrot : c.rotating) : ∀ c' ∈ s.calls.rows, c'.id = c.id := by
  intro c' hc'
  cases hrot' : c'.rotating with
  | true => exact h.single c' hc' c hc (.inl hrot') (.inl hrot)
  | false =>
    rcases session_or_alarmed hrot' with hses | hal
    · exact h.single c' hc' c hc (.inr hses) (.inl hrot)
    · rw [h.calm c' hc' hal c hc] at hrot
      cases hrot

theorem RotationInv.only (h : RotationInv hash token k user s) (hc : c ∈ s.calls.rows)
    (hrot : c.rotating) (phase : RefreshPhase) :
    ∀ r ∈ (s.calls.put { c with phase := phase }).rows, r = { c with phase := phase } :=
  forall_mem_put_of_ne rfl (fun r hr hne => absurd (h.alone hc hrot r hr) hne)

-- a call that is rotating, or has just got its session, is the only one
theorem RotationInv.solo (hrw : ∀ r ∈ s.calls.rows, r = c) (htok : TokenOf hash token k user s.db)
    (hhd : ∀ sess, c.held = some sess → sess.id = k ∧ sess.userId = user)
    (hacc : ∀ u, c.account = some u → u.id = user) (hspt : c.spends →
      ∀ sess, getSessionByToken hash token s.db = some sess → sess.revoked)
    (hown : ∀ newId, c.session = some newId →
      ∃ row, s.db.sessions.get newId = some row ∧ row.userId = user) :
    RotationInv hash token k user s := by
  have hall : ∀ P : RefreshCall → Prop, P c → ∀ r ∈ s.calls.rows, P r := by
    intro P hP r hr
    rw [hrw r hr]
    exact hP
  refine ⟨htok, hall _ hhd, hall _ hacc, hall _ (hall _ (fun _ _ => rfl)), hall _ hspt,
    hall _ (fun hal => hall _ (silent_of_alarmed hal).1), hall _ hown, hall _ ?_⟩
  intro hal _
  refine hall _ ?_
  intro newId hn
  rw [(silent_of_alarmed hal).2] at hn
  cases hn

theorem RotationInv.alarm (h : RotationInv hash token k user s) (hcal : t.calls = s.calls.put c)
    (hqt : ∀ r ∈ s.calls.rows, r.rotating = false)
    (hsil : c.rotating = false ∧ c.session = none ∧ c.account = none)
    (htok : TokenOf hash token k user t.db) (hon : OnlyRevokes s.db t.db)
    (hspt : ∀ sess, getSessionByToken hash token t.db = some sess → sess.revoked)
    (hhd : ∀ sess, c.held = some sess → sess.id = k ∧ sess.userId = user)
    (hswe : c.finished → ∀ r ∈ s.calls.rows, ∀ newId, r.session = some newId →
      ∀ row, t.db.sessions.get newId = some row → row.revoked) :
    RotationInv hash token k user t := by
  obtain ⟨hrot, hses, hacc⟩ := hsil
  have hil : ∀ r ∈ t.calls.rows, r.rotating = false := by
    rw [hcal]
    exact forall_mem_put hrot hqt
  refine ⟨htok, ?_, ?_, ?_, fun _ _ _ => hspt, fun _ _ _ => hil, ?_, ?_⟩
  · rw [hcal]
    exact forall_mem_put hhd h.held
  · rw [hcal]
    exact forall_mem_put (by simp [hacc]) h.account
  · rw [hcal]
    exact forall_pair_put (fun _ _ => rfl) (by simp [hrot, hses]) (by simp [hrot, hses]) h.single
  · rw [hcal]
    refine forall_mem_put (by simp [hses]) ?_
    intro r hr newId hn
    obtain ⟨row, hrow, huser⟩ := h.owned r hr newId hn
    obtain ⟨row', hrow', huser', -⟩ := hon newId row hrow
    exact ⟨row', hrow', huser'.trans huser⟩
  · intro r hr hal hfin r' hr' newId hn row hrow
    rw [hcal] at hr hr'
    rcases mem_put.mp hr' with rfl | ⟨hrs', -⟩
    · rw [hses] at hn
      cases hn
    · rcases mem_put.mp hr with rfl | ⟨hrs, -⟩
      · exact hswe hfin r' hrs' newId hn row hrow
      · obtain ⟨row₀, hrow₀, -⟩ := h.owned r' hrs' newId hn
        obtain ⟨row', hrow', -, hrev⟩ := hon newId row₀ hrow₀
        rw [hrow] at hrow'
        cases hrow'
        exact hrev (h.swept r hrs hal hfin r' hrs' newId hn row₀ hrow₀)

theorem tokenOf_withdraw (h : TokenOf hash token k user db) (p : Session → Bool) :
    TokenOf hash token k user (withdraw p db) := by
  obtain ⟨sess, hss, hid, huser⟩ := h.session
  refine ⟨h.nonempty, ⟨if p sess then sess.withdrawn else sess, ?_, ?_, ?_⟩, h.active⟩
  · rw [getSessionByToken_withdraw, hss, Option.map_some]
  · split
    · exact hid
    · exact hid
  · split
    · exact huser
    · exact huser

theorem judge_live {now : Int} {req : RefreshRequest} {sess : Session} (hne : req.refreshToken ≠ "")
    (hss : getSessionByToken hash req.refreshToken db = some sess)
    (hlv : sess.isExpired now = false) :
    judge hash now req db = if sess.revoked then .reuse sess else .usable sess := by
  unfold judge
  rw [if_neg hne, hss]
  cases hrev : sess.revoked <;> simp [hlv, Session.isUsable, hrev]

theorem RotationInv.preserved {a : AuthAct} (h : RotationInv hash token k user s)
    (hcd : s.unrushed hash a ∧ a.presents token) (hst : step hash ttl s a = some t) :
    RotationInv hash token k user t := by
  obtain ⟨hcm, hpre⟩ := hcd
  cases step_moves hst with
  | tick _ => exact ⟨h.presented, h.held, h.account, h.single, h.spent, h.calm, h.owned, h.swept⟩
  | lookup i req hn =>
    have htok : req.refreshToken = token := hpre
    obtain ⟨sess, hss, hid, huser⟩ := h.presented.session
    simp only [unrushed, htok, hss, Option.all_some, Bool.and_eq_true, List.all_eq_true,
      Bool.not_eq_true'] at hcm
    obtain ⟨hil, hlv⟩ := hcm
    have hjud := judge_live (htok ▸ h.presented.nonempty) (htok ▸ hss) hlv
    cases hrev : sess.revoked with
    | true =>
      rw [hrev, if_pos rfl] at hjud
      refine h.alarm (c := ⟨i, req, .reused sess⟩) (by simp only [hjud, Verdict.phase]) hil
        ⟨rfl, rfl, rfl⟩ h.presented (.of_sessions_eq rfl) ?_ ?_ (by rintro ⟨⟩)
      · intro q hq
        rw [Option.some.inj (hq.symm.trans hss)]
        exact hrev
      · rintro q ⟨⟩
        exact ⟨hid, huser⟩
    | false =>
      rw [hrev] at hjud
      refine .solo (c := ⟨i, req, .found sess⟩) ?_ h.presented ?_ (by rintro _ ⟨⟩) (by rintro ⟨⟩)
        (by rintro _ ⟨⟩)
      · rw [hjud]
        refine forall_mem_put rfl ?_
        -- nobody has revoked the session, and nobody is rotating: there is no other call
        intro c hc
        have hspe : c.spends := by
          have hrot := hil c hc
          unfold RefreshCall.rotating at hrot
          unfold RefreshCall.spends
          split at hrot <;> simp_all
        have hspt := h.spent c hc hspe sess hss
        rw [hrev] at hspt
        cases hspt
      · rintro q ⟨⟩
        exact ⟨hid, huser⟩
  | refuse c sess _ hm hph hchk =>
    -- the user is there and active
    obtain ⟨u, hu, hact⟩ := h.presented.active
    have huser := (h.held c hm sess (by simp [RefreshCall.held, hph])).2
    simp only [checkUser, huser, hu, hact] at hchk
    cases hchk
  | accept c sess u hm hph hchk =>
    have hhd := h.held c hm sess (by simp [RefreshCall.held, hph])
    refine .solo (h.only hm (by simp [RefreshCall.rotating, hph]) _) h.presented ?_ ?_
      (by rintro ⟨⟩) (by rintro _ ⟨⟩)
    · rintro q ⟨⟩
      exact hhd
    · rintro u' ⟨⟩
      exact (checkUser_ok hchk).2.1.trans hhd.2
  | revokeOld c sess u hm hph =>
    have hhd := h.held c hm sess (by simp [RefreshCall.held, hph])
    refine .solo (h.only hm (by simp [RefreshCall.rotating, hph]) _)
      (tokenOf_withdraw h.presented _) ?_ ?_ ?_ (by rintro _ ⟨⟩)
    · rintro q ⟨⟩
      exact hhd
    · rintro u' ⟨⟩
      exact h.account c hm u (by simp [RefreshCall.account, hph])
    · intro _ q hq
      obtain ⟨sess', hss', hid', -⟩ := h.presented.session
      have hsm : sess'.id = sess.id := hid'.trans hhd.1.symm
      rw [show (s.move c (.rotated sess u) (revokeSession sess.id s.db)).db =
        withdraw (·.id = sess.id) s.db from rfl, getSessionByToken_withdraw, hss',
        Option.map_some, Option.some.injEq, if_pos (by simpa using hsm)] at hq
      rw [← hq]
      rfl
  | create c sess u newId raw hm hph hid hraw =>
    obtain ⟨sess', hss', hk, huser'⟩ := h.presented.session
    have hrw_ : hash raw ≠ hash token := by
      intro heq
      unfold getSessionByToken at hraw hss'
      rw [heq, hss'] at hraw
      cases hraw
    have hsm : getSessionByToken hash token
        (createSession (newSession hash ttl s.now c.req u newId raw) s.db) =
          getSessionByToken hash token s.db :=
      getSessionByToken_createSession hid hrw_
    refine .solo (h.only hm (by simp [RefreshCall.rotating, hph]) _)
      ⟨h.presented.nonempty, ⟨sess', hsm.trans hss', hk, huser'⟩, h.presented.active⟩
      (by rintro _ ⟨⟩) (by rintro _ ⟨⟩) ?_ ?_
    · intro _ q hq
      exact h.spent c hm (by simp [RefreshCall.spends, hph]) q (hsm.symm.trans hq)
    · rintro newId' ⟨⟩
      exact ⟨_, get_put_self s.db.sessions _, h.account c hm u (by simp [RefreshCall.account, hph])⟩
  | revokeFamily c sess hm hph =>
    have hhd := h.held c hm sess (by simp [RefreshCall.held, hph])
    refine h.alarm rfl (h.calm c hm (by simp [RefreshCall.alarmed, hph])) ⟨rfl, rfl, rfl⟩
      (tokenOf_withdraw h.presented _) (.withdraw _ s.db) ?_ (by rintro _ ⟨⟩) ?_
    · intro q hq
      obtain ⟨sess', hss', -⟩ := h.presented.session
      have hrev := h.spent c hm (by simp [RefreshCall.spends, hph]) sess' hss'
      rw [show (s.move c (.done reuseReply) (revokeAllUserSessions sess.userId s.db)).db =
        withdraw _ s.db from rfl, getSessionByToken_withdraw, hss', Option.map_some,
        Option.some.injEq] at hq
      rw [← hq]
      split
      · rfl
      · exact hrev
    · intro _ c' hc' newId hnwd row hrow
      obtain ⟨row₀, hrow₀, huser₀⟩ := h.owned c' hc' newId hnwd
      obtain ⟨row', hrow', huser', -⟩ := OnlyRevokes.withdraw
        (fun r => r.userId = sess.userId && !r.revoked) s.db newId row₀ hrow₀
      have hrow_eq : row = row' := Option.some.inj (hrow.symm.trans hrow')
      refine revoked_of_revokeAll hrow ?_
      rw [hrow_eq, huser', huser₀, hhd.2]
  | begin j e user' hn | exec op stmt rest hm hpen => exact hpre.elim

theorem unrushed_refresh_single_use (token k user : String) (s : Server) (as : List AuthAct)
    (hcalls : s.calls = Keyed.empty) (htoken : TokenOf hash token k user s.db)
    (hpresents : ∀ a ∈ as, a.presents token)
    (halong : Along (step hash ttl) (fun s a => s.unrushed hash a = true) s as) :
    Throughout (step hash ttl) SingleUse s as := by
  have hsta : RotationInv hash token k user s := by
    constructor
    · exact htoken
    all_goals
      rw [hcalls]
      exact fun c hc => (List.not_mem_nil hc).elim
  refine (throughout_of_along _ ?_ hsta (halong.and_mem _ hpresents)).mono _ ?_
  · intro s a t hs hcd hst
    exact hs.preserved hcd hst
  · intro t ht
    exact ht.singleUse

end Rotation

section Interleavings

def oneSession : Server where
  db :=
    { users := Keyed.empty.put ⟨"u1", true, "old", 1⟩
      sessions := Keyed.empty.put ⟨"s0", "u1", "t0", "ua", "ip", 1000, 0, false⟩ }
  now := 10

def present : RefreshRequest := ⟨"t0", "", "ua", "ip"⟩

def doubleRead : List AuthAct :=
  [.lookup 1 present, .lookup 2 present, .loadUser 1, .loadUser 2, .revokeOld 1, .revokeOld 2,
    .create 1 "s1" "t1", .create 2 "s2" "t2"]

def lateInsert : List AuthAct :=
  [.lookup 1 present, .loadUser 1, .revokeOld 1, .lookup 2 present, .revokeFamily 2,
    .create 1 "s1" "t1"]

def oneAfterTheOther : List AuthAct :=
  [.lookup 1 present, .loadUser 1, .revokeOld 1, .create 1 "s1" "t1", .lookup 2 present,
    .revokeFamily 2]

def outcome (as : List AuthAct) : Option (List (Option String × Bool) × List (String × Bool)) :=
  (run (step id 1000) oneSession as).map (fun t =>
    (t.calls.rows.map (fun c => (c.session, c.finished)),
      t.db.sessions.rows.map (fun r => (r.id, r.isUsable t.now))))

theorem not_singleUse_of_outcome {as : List AuthAct} {other : Option String}
    {sessions : List (String × Bool)}
    (h : outcome as = some ([(some "s1", true), (other, true)], sessions))
    (hoth : other ≠ some "s1") (husa : ("s1", true) ∈ sessions) :
    ¬ Throughout (step id 1000) SingleUse oneSession as := by
  intro hthr
  obtain ⟨t, hrun, hpa⟩ := Option.map_eq_some_iff.mp h
  obtain ⟨hcal, hss⟩ := Prod.mk.inj hpa
  obtain ⟨c, rest, hrw, hc, hrs⟩ := List.map_eq_cons_iff.mp hcal
  obtain ⟨c', rest', hrw', hc', -⟩ := List.map_eq_cons_iff.mp hrs
  obtain ⟨hses, hfin⟩ := Prod.mk.inj hc
  obtain ⟨hses', hfin'⟩ := Prod.mk.inj hc'
  rw [← hss] at husa
  obtain ⟨row, hrow, hrow_eq⟩ := List.mem_map.mp husa
  obtain ⟨hid, hlv⟩ := Prod.mk.inj hrow_eq
  have hm : c ∈ t.calls.rows := by simp [hrw]
  have hm' : c' ∈ t.calls.rows := by simp [hrw, hrw']
  have hne : c ≠ c' := by
    rintro rfl
    exact hoth (hses'.symm.trans hses)
  have hg : t.db.sessions.get "s1" = some row := hid ▸ get_key hrow
  have hdead := (hthr.final _ hrun).2 c hm c' hm' hne hfin hfin' c hm "s1" hses row hg
  rw [hlv] at hdead
  cases hdead

theorem two_reads_rotate_twice :
    outcome doubleRead = some ([(some "s1", true), (some "s2", true)],
        [("s0", false), ("s1", true), ("s2", true)]) ∧
      outcome lateInsert = some ([(some "s1", true), (none, true)], [("s0", false), ("s1", true)]) ∧
      ¬ Throughout (step id 1000) SingleUse oneSession doubleRead ∧
      ¬ Throughout (step id 1000) SingleUse oneSession lateInsert := by
  have hdou : outcome doubleRead = some ([(some "s1", true), (some "s2", true)],
      [("s0", false), ("s1", true), ("s2", true)]) := by
    decide +kernel
  have hla : outcome lateInsert = some ([(some "s1", true), (none, true)],
      [("s0", false), ("s1", true)]) := by
    decide +kernel
  exact ⟨hdou, hla, not_singleUse_of_outcome hdou (by decide) (by decide),
    not_singleUse_of_outcome hla (by decide) (by decide)⟩

theorem second_call_ends_family :
    Throughout (step id 1000) SingleUse oneSession oneAfterTheOther ∧
      outcome oneAfterTheOther = some ([(some "s1", true), (none, true)],
        [("s0", false), ("s1", false)]) :=
  ⟨unrushed_refresh_single_use "t0" "s0" "u1" oneSession oneAfterTheOther rfl
      ⟨by decide, ⟨_, rfl, rfl, rfl⟩, ⟨_, rfl, rfl⟩⟩
      (by simp [oneAfterTheOther, AuthAct.presents, present, RefreshRequest.refreshToken])
      (by decide +kernel),
    by decide +kernel⟩

end Interleavings

end Server

end ETradie.Auth
