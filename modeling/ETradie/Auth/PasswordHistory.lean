import ETradie.Kernel.Keyed
import ETradie.Kernel.Latest
import ETradie.Kernel.Runs
import ETradie.Kernel.Text

namespace ETradie.Auth

open Kernel List

structure Hashing where
  idKey : (plaintext : String) → (salt : List UInt8) → (time memory threads keyLen : Nat) →
    List UInt8
  idKey_length : ∀ plaintext salt time memory threads keyLen,
    (idKey plaintext salt time memory threads keyLen).length = keyLen
  compareBcrypt : (stored plaintext : String) → Bool

inductive StoredHash where
  | argon2id (memory time threads : Nat) (salt key : List UInt8)
  | bcrypt (text : String)
  | unsupported (text : String)
deriving DecidableEq

def argon2idMemoryKiB : Nat := 64 * 1024
def argon2idTime : Nat := 3
def argon2idThreads : Nat := 2
def argon2idKeyLength : Nat := 32
def passwordMaxLength : Nat := 72

def hashPassword (hg : Hashing) (salt : List UInt8) (plaintext : String) :
    Except String StoredHash :=
  if plaintext = "" then .error "password must not be empty"
  else if passwordMaxLength < plaintext.utf8ByteSize then
    .error "password must be at most 72 characters"
  else
    .ok (.argon2id argon2idMemoryKiB argon2idTime argon2idThreads salt
      (hg.idKey plaintext salt argon2idTime argon2idMemoryKiB argon2idThreads argon2idKeyLength))

def verifyPassword (hg : Hashing) : StoredHash → (plaintext : String) → Bool
  | .argon2id memory time threads salt key, plaintext =>
    hg.idKey plaintext salt time memory threads key.length == key
  | .bcrypt text, plaintext => hg.compareBcrypt text plaintext
  | .unsupported _, _ => false

variable {hg : Hashing} {salt : List UInt8} {plaintext : String} {stored : StoredHash}

theorem verify_of_hash (h : hashPassword hg salt plaintext = .ok stored) :
    verifyPassword hg stored plaintext := by
  revert h
  fun_cases hashPassword hg salt plaintext
  all_goals rintro ⟨⟩
  simp [verifyPassword, hg.idKey_length]

structure HistoryRow where
  (id userId : String)
  passwordHash : StoredHash
  createdAt : Int
deriving DecidableEq

abbrev HistoryTable := Keyed HistoryRow.id

def passwordHistorySize : Nat := 5

def historyOf (userId : String) (t : HistoryTable) : List HistoryRow :=
  t.rows.filter (·.userId = userId)

def latestHashes (userId : String) (t : HistoryTable) : List HistoryRow :=
  latest HistoryRow.createdAt passwordHistorySize (historyOf userId t)

def pruneHistory (userId : String) (t : HistoryTable) : HistoryTable :=
  t.retain (fun r => r.userId ≠ userId || decide (r.id ∈ (latestHashes userId t).map HistoryRow.id))

def recordHash (rowId userId : String) (passwordHash : StoredHash) (now : Int)
    (t : HistoryTable) : HistoryTable :=
  if userId = "" then t
  else pruneHistory userId (t.put ⟨rowId, userId, passwordHash, now⟩)

def isReused (hg : Hashing) (userId plaintext : String) (t : HistoryTable) : Bool :=
  if userId = "" || plaintext = "" then false
  else (latestHashes userId t).any (fun r => verifyPassword hg r.passwordHash plaintext)

structure Account where
  (username email : String)
  active : Bool
  authProvider : String
  passwordHash : StoredHash
deriving DecidableEq

structure Credentials where
  account : Option Account := none
  history : HistoryTable
  now : Int
  passwords : List (String × StoredHash) := []
  seeded : Bool := true

abbrev Complexity := (plaintext username email : String) → Option String

structure Drawn where
  now : Int
  salt : List UInt8
  rowId : String
deriving DecidableEq

abbrev HttpError := Nat × String

def setPassword (hg : Hashing) (policy : Complexity) (salt : List UInt8)
    (plaintext username email : String) : Except HttpError StoredHash :=
  match policy plaintext username email with
  | some err => .error (400, err)
  | none =>
    match hashPassword hg salt plaintext with
    | .error err => .error (400, "hash password: " ++ err)
    | .ok stored => .ok stored

def checkNewPassword (hg : Hashing) (policy : Complexity) (userId : String) (account : Account)
    (plaintext : String) (breached : Bool) (t : HistoryTable) : Except HttpError Unit :=
  match policy plaintext account.username account.email with
  | some err => .error (400, err)
  | none =>
    if isReused hg userId plaintext t then
      .error (400, "password must not match any of your last 5 passwords")
    else if breached then
      .error (400, "this password has appeared in a known data breach; please choose a " ++
        "different password")
    else .ok ()

def Account.checkPassword (hg : Hashing) (account : Account) (plaintext : String) : Bool :=
  (account.authProvider = "" || account.authProvider = "local") &&
    verifyPassword hg account.passwordHash plaintext

inductive PasswordAct where
  | register (username email password : String) (breached : Bool) (d : Drawn)
  | adminCreateUser (username email password role : String) (d : Drawn)
  | changePassword (currentPassword newPassword : String) (breached : Bool) (d : Drawn)
  /-- The reset token has been redeemed. -/
  | resetPassword (newPassword : String) (breached : Bool) (d : Drawn)
deriving DecidableEq

def PasswordAct.creates : PasswordAct → Bool
  | .register _ _ _ _ _ => true
  | .adminCreateUser _ _ _ _ _ => true
  | _ => false

def PasswordAct.replacement : PasswordAct → Option String
  | .changePassword _ newPassword _ _ => some newPassword
  | .resetPassword newPassword _ _ => some newPassword
  | _ => none

variable (s : Credentials)

namespace Credentials

variable (hg : Hashing) (policy : Complexity) (cm : CaseMap) (userId : String)

def store (account : Account) (plaintext : String) (stored : StoredHash)
    (now : Int) : Credentials :=
  { s with
    account := some { account with passwordHash := stored }
    passwords := (plaintext, stored) :: s.passwords, now := now }

def record (s : Credentials) (stored : StoredHash) (d : Drawn) : Credentials :=
  { s with history := recordHash d.rowId userId stored d.now s.history }

def handleRegister (s : Credentials) (username email password : String) (breached : Bool)
    (d : Drawn) : Except HttpError Credentials :=
  let username := trimSpace username
  let email := trimSpace (cm.lower email)
  if username = "" || email = "" || password = "" then
    .error (400, "username, email, and password are required")
  else if username.utf8ByteSize < 3 || 32 < username.utf8ByteSize then
    .error (400, "username must be 3-32 characters")
  else if !containsText email "@" then .error (400, "invalid email address")
  else
    match policy password username email with
    | some err => .error (400, err)
    | none =>
      if breached then
        .error (400, "this password has appeared in a known data breach; please choose a " ++
          "different password")
      else
        match setPassword hg policy d.salt password username email with
        | .error err => .error err
        | .ok stored =>
          .ok ((s.store ⟨username, email, true, "local", stored⟩ password stored
            d.now).record userId stored d)

def adminCreateUser (s : Credentials) (username email password role : String) (d : Drawn) :
    Except HttpError Credentials :=
  let username := trimSpace username
  let email := trimSpace (cm.lower email)
  if username = "" || email = "" || password = "" || role = "" then
    .error (400, "username, email, password, and role are required")
  else if cm.lower (trimSpace role) ∉ ["admin", "etradie"] then
    .error (400, "invalid role " ++ goQuote role ++ ": must be one of admin, etradie")
  else
    match setPassword hg policy d.salt password username email with
    | .error err => .error err
    | .ok stored =>
      .ok { s.store ⟨username, email, true, "local", stored⟩ password stored d.now with
        seeded := false }

def replacePassword (s : Credentials) (account : Account) (newPassword : String) (d : Drawn) :
    Except HttpError Credentials :=
  match setPassword hg policy d.salt newPassword account.username account.email with
  | .error err => .error err
  | .ok stored => .ok ((s.store account newPassword stored d.now).record userId stored d)

def handleChangePassword (s : Credentials) (currentPassword newPassword : String)
    (breached : Bool) (d : Drawn) : Except HttpError Credentials :=
  if currentPassword = "" || newPassword = "" then
    .error (400, "current_password and new_password are required")
  else
    match s.account with
    | none => .error (404, "user not found")
    | some account =>
      if account.authProvider ≠ "" && account.authProvider ≠ "local" then
        .error (400, "this account signs in with " ++ account.authProvider ++
          "; password change is not applicable")
      else if !account.checkPassword hg currentPassword then
        .error (401, "current password is incorrect")
      else
        match checkNewPassword hg policy userId account newPassword breached s.history with
        | .error err => .error err
        | .ok _ => s.replacePassword hg policy userId account newPassword d

def handleResetPassword (s : Credentials) (newPassword : String) (breached : Bool) (d : Drawn) :
    Except HttpError Credentials :=
  if newPassword = "" then .error (400, "new_password is required")
  else
    match s.account with
    | none => .error (400, "reset link is invalid, expired, or already used")
    | some account =>
      if !account.active || (account.authProvider ≠ "" && account.authProvider ≠ "local") then
        .error (400, "reset link is invalid, expired, or already used")
      else
        match checkNewPassword hg policy userId account newPassword breached s.history with
        | .error err => .error err
        | .ok _ => s.replacePassword hg policy userId account newPassword d

def admits (d : Drawn) : Bool := decide (s.now < d.now) && (s.history.get d.rowId).isNone

def answer (s : Credentials) : PasswordAct → Drawn × Except HttpError Credentials
  | .register username email password breached d =>
    (d, s.handleRegister hg policy cm userId username email password breached d)
  | .adminCreateUser username email password role d =>
    (d, s.adminCreateUser hg policy cm username email password role d)
  | .changePassword currentPassword newPassword breached d =>
    (d, s.handleChangePassword hg policy userId currentPassword newPassword breached d)
  | .resetPassword newPassword breached d =>
    (d, s.handleResetPassword hg policy userId newPassword breached d)

def step (s : Credentials) (a : PasswordAct) : Option Credentials :=
  let r := s.answer hg policy cm userId a
  if s.admits r.1 && (!a.creates || s.account.isNone) then r.2.toOption else none

def NoneReused : List (String × StoredHash) → Prop
  | [] => True
  | p :: earlier => p.1 ∉ (earlier.take passwordHistorySize).map Prod.fst ∧ NoneReused earlier

def NoReuse : Prop := NoneReused s.passwords

def unrecorded : Option String :=
  if !s.seeded && s.passwords.length ≤ passwordHistorySize then
    s.passwords.getLast?.map Prod.fst
  else none

def Unlike (a : PasswordAct) : Prop :=
  ∀ plaintext, a.replacement = some plaintext → s.unrecorded ≠ some plaintext

end Credentials

variable {userId : String} {now : Int}

section Recording

variable {rowId : String} {t : HistoryTable}

theorem historyOf_put (hn : t.get rowId = none) :
    historyOf userId (t.put ⟨rowId, userId, stored, now⟩) =
      historyOf userId t ++ [⟨rowId, userId, stored, now⟩] := by
  have hrw : (t.put ⟨rowId, userId, stored, now⟩).rows =
      t.rows ++ [⟨rowId, userId, stored, now⟩] :=
    if_neg (Keyed.get_eq_none_iff.mp hn)
  rw [historyOf, hrw]
  simp [historyOf]

theorem historyOf_prune (h : Ascending HistoryRow.createdAt (historyOf userId t)) :
    historyOf userId (pruneHistory userId t) = (latestHashes userId t).reverse := by
  have hks : ((historyOf userId t).map HistoryRow.id).Nodup :=
    t.unique.sublist (filter_sublist.map HistoryRow.id)
  rw [latestHashes, ← filter_latest hks h, historyOf, historyOf, pruneHistory, Keyed.retain,
    filter_filter, filter_filter]
  refine filter_congr ?_
  intro r _
  by_cases hr : r.userId = userId
  · simp [hr, latestHashes, historyOf]
  · simp [hr]

theorem historyOf_recordHash (hu : userId ≠ "") (hn : t.get rowId = none)
    (h : Ascending HistoryRow.createdAt (historyOf userId t))
    (hlat : ∀ r ∈ historyOf userId t, r.createdAt < now) :
    historyOf userId (recordHash rowId userId stored now t) =
      ((⟨rowId, userId, stored, now⟩ :: (historyOf userId t).reverse).take
        passwordHistorySize).reverse := by
  have hput : Ascending HistoryRow.createdAt
      (historyOf userId (t.put ⟨rowId, userId, stored, now⟩)) := by
    rw [historyOf_put hn]
    exact h.append hlat
  rw [recordHash, if_neg hu, historyOf_prune hput, latestHashes, latest_eq_take hput,
    historyOf_put hn, reverse_append]
  rfl

end Recording

variable {history : HistoryTable}

namespace Credentials

variable {policy : Complexity} {cm : CaseMap}
variable {t : Credentials} {s} {a : PasswordAct} {account : Account}
variable {breached : Bool} {d : Drawn}

section Steps

variable {username email password newPassword : String}

inductive Stores (hg : Hashing) (userId : String) (s : Credentials) :
    PasswordAct → Credentials → Prop
  | seeds {a : PasswordAct} (account : Account) (plaintext : String) (stored : StoredHash)
      (d : Drawn)
      (ha : a.replacement = none)
      (hnone : s.account = none)
      (hverify : verifyPassword hg stored plaintext = true)
      (hadmits : s.admits d = true) :
      Stores hg userId s a ((s.store account plaintext stored d.now).record userId stored d)
  | leaves {a : PasswordAct} (account : Account) (plaintext : String) (stored : StoredHash)
      (d : Drawn)
      (ha : a.replacement = none)
      (hnone : s.account = none)
      (hverify : verifyPassword hg stored plaintext = true)
      (hadmits : s.admits d = true) :
      Stores hg userId s a { s.store account plaintext stored d.now with seeded := false }
  | replaces {a : PasswordAct} (account : Account) (plaintext : String) (stored : StoredHash)
      (d : Drawn)
      (ha : a.replacement = some plaintext)
      (hsome : s.account = some account)
      (hnonempty : plaintext ≠ "")
      (hreused : isReused hg userId plaintext s.history = false)
      (hverify : verifyPassword hg stored plaintext = true)
      (hadmits : s.admits d = true) :
      Stores hg userId s a ((s.store account plaintext stored d.now).record userId stored d)

theorem verify_of_setPassword
    (h : setPassword hg policy salt plaintext username email = .ok stored) :
    verifyPassword hg stored plaintext := by
  revert h
  fun_cases setPassword hg policy salt plaintext username email
  all_goals rintro ⟨⟩
  next hhs => exact verify_of_hash hhs

theorem not_reused_of_check
    (h : checkNewPassword hg policy userId account plaintext breached history = .ok ()) :
    isReused hg userId plaintext history = false := by
  revert h
  fun_cases checkNewPassword hg policy userId account plaintext breached history
  all_goals rintro ⟨⟩
  next hreu _ => exact Bool.eq_false_iff.mpr hreu

theorem stores_register (hno : s.account = none) (hadm : s.admits d)
    (h : s.handleRegister hg policy cm userId username email password breached d = .ok t) :
    Stores hg userId s (.register username email password breached d) t := by
  revert h
  fun_cases handleRegister hg policy cm userId s username email password breached d
  all_goals rintro ⟨⟩
  next hset => exact .seeds _ password _ d rfl hno (verify_of_setPassword hset) hadm

theorem stores_adminCreateUser {role : String} (hno : s.account = none)
    (hadm : s.admits d)
    (h : s.adminCreateUser hg policy cm username email password role d = .ok t) :
    Stores hg userId s (.adminCreateUser username email password role d) t := by
  revert h
  fun_cases adminCreateUser hg policy cm s username email password role d
  all_goals rintro ⟨⟩
  next hset => exact .leaves _ password _ d rfl hno (verify_of_setPassword hset) hadm

theorem stores_replacePassword (ha : a.replacement = some plaintext)
    (hso : s.account = some account) (hnem : plaintext ≠ "")
    (hreu : isReused hg userId plaintext s.history = false) (hadm : s.admits d)
    (h : s.replacePassword hg policy userId account plaintext d = .ok t) :
    Stores hg userId s a t := by
  revert h
  fun_cases replacePassword hg policy userId s account plaintext d
  all_goals rintro ⟨⟩
  next hset =>
    exact .replaces account plaintext _ d ha hso hnem hreu (verify_of_setPassword hset) hadm

theorem stores_changePassword {currentPassword : String} (hadm : s.admits d)
    (h : s.handleChangePassword hg policy userId currentPassword newPassword breached d = .ok t) :
    Stores hg userId s (.changePassword currentPassword newPassword breached d) t := by
  revert h
  fun_cases handleChangePassword hg policy userId s currentPassword newPassword breached d
  any_goals rintro ⟨⟩
  next hemp _ hso _ _ _ hchk =>
    simp only [Bool.or_eq_true, decide_eq_true_eq, not_or] at hemp
    exact stores_replacePassword rfl hso hemp.2 (not_reused_of_check hchk) hadm

theorem stores_resetPassword (hadm : s.admits d)
    (h : s.handleResetPassword hg policy userId newPassword breached d = .ok t) :
    Stores hg userId s (.resetPassword newPassword breached d) t := by
  revert h
  fun_cases handleResetPassword hg policy userId s newPassword breached d
  any_goals rintro ⟨⟩
  next hemp _ hso _ _ hchk =>
    exact stores_replacePassword rfl hso hemp (not_reused_of_check hchk) hadm

theorem step_stores (hst : s.step hg policy cm userId a = some t) : Stores hg userId s a t := by
  obtain ⟨hgrd, hans⟩ := Option.ite_none_right_eq_some.mp hst
  simp only [Bool.and_eq_true, Bool.or_eq_true, Option.isNone_iff_eq_none] at hgrd
  obtain ⟨hadm, hno⟩ := hgrd
  have hok : (s.answer hg policy cm userId a).2 = .ok t := by
    cases hres : (s.answer hg policy cm userId a).2 with
    | error _ =>
      rw [hres] at hans
      cases hans
    | ok _ =>
      rw [hres] at hans
      cases hans
      rfl
  cases a with
  | register username email password breached d =>
    exact stores_register (hno.resolve_left nofun) hadm hok
  | adminCreateUser username email password _ d =>
    exact stores_adminCreateUser (hno.resolve_left nofun) hadm hok
  | changePassword _ newPassword breached d => exact stores_changePassword hadm hok
  | resetPassword newPassword breached d => exact stores_resetPassword hadm hok

end Steps

def recorded (s : Credentials) : List (String × StoredHash) :=
  if s.seeded then s.passwords else s.passwords.dropLast

structure Sound (hg : Hashing) (userId : String) (s : Credentials) : Prop where
  ascending : Ascending HistoryRow.createdAt (historyOf userId s.history)
  earlier : ∀ r ∈ historyOf userId s.history, r.createdAt ≤ s.now
  hashes : (historyOf userId s.history).reverse.map HistoryRow.passwordHash =
    (s.recorded.map Prod.snd).take passwordHistorySize
  verified : ∀ p ∈ s.passwords, verifyPassword hg p.2 p.1 = true
  fresh : s.account = none → s.passwords = [] ∧ s.seeded = true
  unseeded : s.seeded = false → s.passwords ≠ []

theorem recorded_store (account : Account) (plaintext : String) (stored : StoredHash) (now : Int)
    (h : s.seeded = false → s.passwords ≠ []) :
    (s.store account plaintext stored now).recorded = (plaintext, stored) :: s.recorded := by
  unfold recorded
  cases hsee : s.seeded with
  | true => simp [store, hsee]
  | false =>
    have hco : ((plaintext, stored) :: s.passwords).dropLast =
        (plaintext, stored) :: s.passwords.dropLast :=
      dropLast_cons_of_ne_nil (h hsee)
    simpa [store, hsee] using hco

theorem Sound.record (hu : userId ≠ "") (h : s.Sound hg userId)
    (hver : verifyPassword hg stored plaintext) (hadm : s.admits d) :
    ((s.store account plaintext stored d.now).record userId stored d).Sound hg userId := by
  simp only [admits, Bool.and_eq_true, decide_eq_true_eq, Option.isNone_iff_eq_none] at hadm
  obtain ⟨hnow, hn⟩ := hadm
  have hlat : ∀ r ∈ historyOf userId s.history, r.createdAt < d.now := by
    intro r hr
    exact (h.earlier r hr).trans_lt hnow
  have hrw : historyOf userId (recordHash d.rowId userId stored d.now s.history) = _ :=
    historyOf_recordHash hu hn h.ascending hlat
  refine ⟨?_, ?_, ?_, ?_, ?_, ?_⟩
  · show Ascending _ (historyOf userId (recordHash d.rowId userId stored d.now s.history))
    rw [hrw]
    refine List.Pairwise.sublist (take_sublist _ _).reverse ?_
    rw [reverse_cons, reverse_reverse]
    exact h.ascending.append hlat
  · intro r hr
    have hm : r ∈ historyOf userId (recordHash d.rowId userId stored d.now s.history) := hr
    rw [hrw, mem_reverse] at hm
    rcases mem_cons.mp (mem_of_mem_take hm) with rfl | ho
    · rfl
    · exact (hlat r (mem_reverse.mp ho)).le
  · show (historyOf userId (recordHash d.rowId userId stored d.now s.history)).reverse.map _ = _
    have hrcd : ((s.store account plaintext stored d.now).record userId stored d).recorded =
        (plaintext, stored) :: s.recorded :=
      recorded_store account plaintext stored d.now h.unseeded
    rw [hrw, hrcd, reverse_reverse, map_take, map_cons, h.hashes, map_cons]
    simp [passwordHistorySize, take_take]
  · exact forall_mem_cons.mpr ⟨hver, h.verified⟩
  · rintro ⟨⟩
  · exact fun _ => cons_ne_nil _ _

theorem Sound.leave (h : s.Sound hg userId) (hno : s.account = none)
    (hver : verifyPassword hg stored plaintext) (hadm : s.admits d) :
    ({ s.store account plaintext stored d.now with seeded := false } : Credentials).Sound hg
      userId := by
  simp only [admits, Bool.and_eq_true, decide_eq_true_eq] at hadm
  obtain ⟨hemp, hsee⟩ := h.fresh hno
  refine ⟨h.ascending, ?_, ?_, ?_, ?_, ?_⟩
  · intro r hr
    exact (h.earlier r hr).trans hadm.1.le
  · have hhas := h.hashes
    show (historyOf userId s.history).reverse.map HistoryRow.passwordHash = _
    rw [hhas]
    simp [recorded, store, hemp]
  · exact forall_mem_cons.mpr ⟨hver, h.verified⟩
  · rintro ⟨⟩
  · exact fun _ => cons_ne_nil _ _

theorem Sound.of_stores (hu : userId ≠ "") (h : s.Sound hg userId)
    (hsto : Stores hg userId s a t) : t.Sound hg userId := by
  cases hsto with
  | seeds account plaintext stored d ha hno hver hadm => exact h.record hu hver hadm
  | leaves account plaintext stored d ha hno hver hadm => exact h.leave hno hver hadm
  | replaces account plaintext stored d ha _ _ _ hver hadm => exact h.record hu hver hadm

theorem Sound.notMem_recorded (hu : userId ≠ "") (h : s.Sound hg userId)
    (hnem : plaintext ≠ "") (hreu : isReused hg userId plaintext s.history = false) :
    plaintext ∉ (s.recorded.take passwordHistorySize).map Prod.fst := by
  intro hm
  obtain ⟨p, hp, rfl⟩ := mem_map.mp hm
  have hver : verifyPassword hg p.2 p.1 := by
    refine h.verified p ?_
    have hrcd := mem_of_mem_take hp
    unfold recorded at hrcd
    split at hrcd
    · exact hrcd
    · exact mem_of_mem_dropLast hrcd
  have hhs : p.2 ∈ (latestHashes userId s.history).map HistoryRow.passwordHash := by
    rw [latestHashes, latest_eq_take h.ascending, map_take, h.hashes, take_take,
      Nat.min_self, ← map_take]
    exact mem_map_of_mem hp
  obtain ⟨r, hr, hrha⟩ := mem_map.mp hhs
  have hfnd : isReused hg userId p.1 s.history := by
    simp only [isReused, hu, hnem, decide_false, Bool.or_self, Bool.false_eq_true,
      if_false, any_eq_true]
    exact ⟨r, hr, by rw [hrha]; exact hver⟩
  rw [hfnd] at hreu
  cases hreu

theorem mem_recent_iff (h : s.seeded = false → s.passwords ≠ [])
    (hrcd : plaintext ∉ (s.recorded.take passwordHistorySize).map Prod.fst) :
    plaintext ∈ (s.passwords.take passwordHistorySize).map Prod.fst ↔
      s.unrecorded = some plaintext := by
  cases hsee : s.seeded with
  | true =>
    rw [recorded, hsee, if_pos rfl] at hrcd
    have hno : s.unrecorded = none := by simp [unrecorded, hsee]
    exact iff_of_false hrcd (by simp [hno])
  | false =>
    rw [recorded, hsee, if_neg (by simp)] at hrcd
    have hne := h hsee
    by_cases hlen : s.passwords.length ≤ passwordHistorySize
    · have hl : s.passwords.dropLast ++ [s.passwords.getLast hne] = s.passwords :=
        dropLast_append_getLast hne
      have hdr : s.passwords.dropLast.take passwordHistorySize = s.passwords.dropLast := by
        apply take_of_length_le
        rw [length_dropLast]
        omega
      rw [hdr] at hrcd
      have hunr : s.unrecorded = some (s.passwords.getLast hne).1 := by
        simp [unrecorded, hsee, hlen, getLast?_eq_some_getLast hne]
      have hm : plaintext ∈ s.passwords.map Prod.fst ↔
          plaintext ∈ s.passwords.dropLast.map Prod.fst ∨
            plaintext = (s.passwords.getLast hne).1 := by
        conv_lhs => rw [← hl]
        simp only [map_append, mem_append, map_singleton, mem_singleton]
      rw [take_of_length_le hlen, hunr, hm, Option.some.injEq]
      constructor
      · rintro (ho | hsm)
        · exact absurd ho hrcd
        · exact hsm.symm
      · intro hsm
        exact .inr hsm.symm
    · have hdr : s.passwords.dropLast.take passwordHistorySize =
          s.passwords.take passwordHistorySize := by
        rw [dropLast_eq_take, take_take]
        congr 1
        omega
      rw [hdr] at hrcd
      have hno : s.unrecorded = none := by simp [unrecorded, hlen]
      exact iff_of_false hrcd (by simp [hno])

theorem noReuse_iff_unlike (hu : userId ≠ "") (h : s.Sound hg userId) (hbef : s.NoReuse)
    (hsto : Stores hg userId s a t) : t.NoReuse ↔ s.Unlike a := by
  have hfst : ∀ p : String × StoredHash, s.account = none → a.replacement = none →
      (NoneReused (p :: s.passwords) ↔ s.Unlike a) := by
    intro p hno ha
    refine iff_of_true ?_ ?_
    · rw [(h.fresh hno).1]
      simp [NoneReused]
    · intro plaintext hso
      rw [ha] at hso
      cases hso
  cases hsto with
  | seeds account plaintext stored d ha hno hver hadm | leaves account plaintext stored d ha hno hver hadm =>
    exact hfst _ hno ha
  | replaces account plaintext stored d ha hso hnem hreu hver hadm =>
    have hrec := mem_recent_iff h.unseeded (h.notMem_recorded hu hnem hreu)
    have hpw : NoneReused ((plaintext, stored) :: s.passwords) ↔
        s.unrecorded ≠ some plaintext := by
      rw [NoneReused, hrec]
      exact and_iff_left hbef
    have hunl : s.Unlike a ↔ s.unrecorded ≠ some plaintext := by simp [Unlike, ha]
    exact hpw.trans hunl.symm

theorem sound_init (h : historyOf userId history = []) :
    ({ history := history, now := now } : Credentials).Sound hg userId where
  ascending := by simp [h, Ascending]
  earlier := by simp [h]
  hashes := by simp [h, recorded]
  verified := by simp
  fresh := by simp
  unseeded := by simp

theorem no_recent_password_iff (hg : Hashing) (policy : Complexity) (cm : CaseMap) (userId : String)
    (huser : userId ≠ "") (history : HistoryTable) (hempty : historyOf userId history = [])
    (now : Int) (as : List PasswordAct) :
    Throughout (step hg policy cm userId) NoReuse { history := history, now := now } as ↔
      Along (step hg policy cm userId) Unlike { history := history, now := now } as := by
  refine throughout_iff_along (step hg policy cm userId) (I := Sound hg userId) ?_ ?_ as
    (sound_init hempty) trivial
  · intro s a t hs hst
    exact hs.of_stores huser (step_stores hst)
  · intro s a t hs hbef hst
    exact noReuse_iff_unlike huser hs hbef (step_stores hst)

def plainHashing : Hashing where
  idKey := fun plaintext salt _ _ _ keyLen =>
    (plaintext.toUTF8.toList ++ salt ++ List.replicate keyLen 0).take keyLen
  idKey_length := by
    intro plaintext salt time memory threads keyLen
    simp
    omega
  compareBcrypt := fun _ _ => false

def registered : List PasswordAct :=
  [.register "alice" "alice@example.com" "Correct-Horse-1" false ⟨1, [1], "r1"⟩,
    .changePassword "Correct-Horse-1" "Battery-Staple-2" false ⟨2, [2], "r2"⟩,
    .resetPassword "Purple-Monkey-3" false ⟨3, [3], "r3"⟩]

theorem no_recent_password_registered :
    historyOf "u" Keyed.empty = [] ∧
      (Throughout (step plainHashing (fun _ _ _ => none) asciiCaseMap "u") NoReuse
          { history := Keyed.empty, now := 0 } registered ↔
        Along (step plainHashing (fun _ _ _ => none) asciiCaseMap "u") Unlike
          { history := Keyed.empty, now := 0 } registered) :=
  ⟨rfl, no_recent_password_iff plainHashing (fun _ _ _ => none) asciiCaseMap "u" (by decide)
    Keyed.empty rfl 0 registered⟩

def adminMade : List PasswordAct :=
  [.adminCreateUser "alice" "alice@example.com" "Correct-Horse-1" "etradie" ⟨1, [1], "r1"⟩,
    .changePassword "Correct-Horse-1" "Correct-Horse-1" false ⟨2, [2], "r2"⟩]

theorem initial_password_comes_back :
    ∃ s, run (step plainHashing (fun _ _ _ => none) asciiCaseMap "u")
        { history := Keyed.empty, now := 0 } adminMade = some s ∧
      s.passwords.map Prod.fst = ["Correct-Horse-1", "Correct-Horse-1"] ∧ ¬ s.NoReuse := by
  have hrun : (run (step plainHashing (fun _ _ _ => none) asciiCaseMap "u")
      { history := Keyed.empty, now := 0 } adminMade).map (fun s => s.passwords.map Prod.fst) =
        some ["Correct-Horse-1", "Correct-Horse-1"] := by
    decide +kernel
  obtain ⟨s, hs, hpas⟩ := Option.map_eq_some_iff.mp hrun
  refine ⟨s, hs, hpas, ?_⟩
  intro hno
  match hls : s.passwords with
  | [] => simp [hls] at hpas
  | p :: earlier =>
    rw [hls, map_cons, List.cons.injEq] at hpas
    rw [NoReuse, hls] at hno
    refine hno.1 ?_
    rw [map_take, hpas.1, hpas.2]
    exact mem_cons_self

end Credentials

end ETradie.Auth
