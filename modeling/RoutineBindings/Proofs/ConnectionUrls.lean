import Mathlib.Data.List.Basic
import RoutineBindings.Settings.Connection

/-!
# Connection URLs

A URL is put together from texts that may hold its separators, so settings for different
connections may share it. It tells a connection from all others whose separators, like its own, stand
at the first place where they could be read; any other connection has the URL of one of these.
-/
namespace RoutineBindings
open Text

/-- What is connected to, and as whom. -/
@[ext]
structure Connection where
  user : String
  /-- No password is an empty one. -/
  password : String
  host : String
  port : UInt16
  database : String
  sslMode : Option SslMode
  deriving DecidableEq

/-- The connection of settings, where what they leave out has its default. -/
def DatabaseSettings.connection (d : DatabaseSettings) : Connection where
  user := d.user.getD defaultUser
  password := d.password.getD ""
  host := d.host
  port := d.port
  database := d.database
  sslMode := d.sslMode

def portText (port : UInt16) : List Char := (toString port.toNat).toList

def modeText (mode : SslMode) : List Char := "?sslmode=".toList ++ mode.text.toList

namespace Connection

def credentials (c : Connection) : List Char :=
  if c.password = "" then c.user.toList else c.user.toList ++ ':' :: c.password.toList

/-- The database, with the mode if there is one. -/
def target (c : Connection) : List Char := c.database.toList ++ c.sslMode.elim [] modeText

/-- The URL without its scheme. -/
def text (c : Connection) : List Char :=
  c.credentials ++ '@' :: (c.host.toList ++ ':' :: (portText c.port ++ '/' :: c.target))

/-- Every separator stands at the first place of the URL where it could be read as one. -/
structure Leftmost (c : Connection) : Prop where
  credentials : '@' ∉ c.credentials
  /-- A colon in the user would begin the password, unless nothing follows it. -/
  user : ∀ a b, c.user.toList = a ++ ':' :: b → b = [] ∧ c.password = ""
  /-- No port stands in the host. -/
  host : ∀ a port b, c.host.toList ≠ a ++ ':' :: (portText port ++ '/' :: b)
  /-- Without a mode, the database does not end in one. -/
  database : c.sslMode = none → ∀ a mode, c.database.toList ≠ a ++ modeText mode

end Connection

theorem DatabaseSettings.toList_credentials (d : DatabaseSettings) :
    d.credentials.toList = d.connection.credentials := by
  cases hp : d.password with
  | none => simp [credentials, connection, Connection.credentials, hp]
  | some password =>
    by_cases hempty : password = ""
    · simp [credentials, connection, Connection.credentials, hp, hempty]
    · simp [credentials, connection, Connection.credentials, hp, hempty]

theorem DatabaseSettings.ofList_text (d : DatabaseSettings) :
    String.ofList d.connection.text = d.credentials ++ ("@" ++ (d.host ++ (":" ++
      (toString d.port.toNat ++ ("/" ++ (d.database ++
        d.sslMode.elim "" fun mode => "?sslmode=" ++ mode.text)))))) := by
  have hat : "@".toList = ['@'] := rfl
  have hcolon : ":".toList = [':'] := rfl
  have hslash : "/".toList = ['/'] := rfl
  have hmode : (d.sslMode.elim "" fun mode => "?sslmode=" ++ mode.text).toList =
      d.sslMode.elim [] modeText := by
    cases d.sslMode with
    | none => rfl
    | some mode => exact String.toList_append
  rw [← String.toList_inj, String.toList_ofList, Connection.text, ← d.toList_credentials]
  simp only [String.toList_append, hmode, hat, hcolon, hslash, List.singleton_append, connection,
    Connection.target, portText]

theorem DatabaseSettings.url_eq (d : DatabaseSettings) :
    d.url = "postgresql://" ++ String.ofList d.connection.text := by
  rw [d.ofList_text]
  unfold url
  cases d.sslMode <;> simp only [String.append_assoc, Option.elim_none, Option.elim_some]

theorem url_eq_iff {d e : DatabaseSettings} :
    d.url = e.url ↔ d.connection.text = e.connection.text := by
  rw [d.url_eq, e.url_eq, String.append_right_inj, String.ofList_inj]

section Separators
variable {port : UInt16} {c : Char}

theorem portText_eq (port : UInt16) : portText port = Nat.toDigits 10 port.toNat := by
  rw [portText, Nat.toString_eq_ofList_toDigits, String.toList_ofList]

theorem portText_digit (h : c ∈ portText port) : c.isDigit = true :=
  Nat.isDigit_of_mem_toDigits (by omega) (by omega) (portText_eq port ▸ h)

theorem portText_injective {p q : UInt16} (h : portText p = portText q) : p = q := by
  rw [portText_eq, portText_eq] at h
  rw [← UInt16.toNat_inj, ← Nat.ofDigitChars_ten_toDigits (n := p.toNat), h,
    Nat.ofDigitChars_ten_toDigits]

/-- The port ends a host at the first place where a port stands. -/
theorem host_not_longer {h u s t : List Char} {p q : UInt16}
    (heq : h ++ ':' :: (portText p ++ '/' :: s) = (h ++ u) ++ ':' :: (portText q ++ '/' :: t))
    (hu : ∀ a r b, h ++ u ≠ a ++ ':' :: (portText r ++ '/' :: b)) : u = [] := by
  rw [List.append_assoc] at heq
  have hrest := List.append_cancel_left heq
  cases u with
  | nil => rfl
  | cons x u =>
    obtain ⟨rfl, hport⟩ := List.cons.inj hrest
    rcases List.append_eq_append_iff.1 hport with ⟨v, rfl, hv⟩ | ⟨v, hport, hv⟩
    · cases v with
      | nil => simp at hv
      | cons y v =>
        obtain ⟨rfl, -⟩ := List.cons.inj hv
        exact absurd rfl (hu h p v)
    · cases v with
      | nil => simp at hv
      | cons y v =>
        obtain ⟨rfl, -⟩ := List.cons.inj hv
        have hcolon : ':' ∈ portText p := hport ▸ List.mem_append_right u List.mem_cons_self
        exact absurd (portText_digit hcolon) (by decide)

theorem host_unique {h k s t : List Char} {p q : UInt16}
    (hh : ∀ a r b, h ≠ a ++ ':' :: (portText r ++ '/' :: b))
    (hk : ∀ a r b, k ≠ a ++ ':' :: (portText r ++ '/' :: b))
    (heq : h ++ ':' :: (portText p ++ '/' :: s) = k ++ ':' :: (portText q ++ '/' :: t)) :
    h = k ∧ p = q ∧ s = t := by
  have hhost : h = k := by
    rcases List.append_eq_append_iff.1 heq with ⟨u, rfl, -⟩ | ⟨u, rfl, -⟩
    · rw [host_not_longer heq hk, List.append_nil]
    · rw [host_not_longer heq.symm hh, List.append_nil]
  subst hhost
  have hslash : ∀ r, '/' ∉ portText r := fun r hr => absurd (portText_digit hr) (by decide)
  obtain ⟨hport, hrest⟩ :=
    cut_unique (hslash p) (hslash q) (List.cons.inj (List.append_cancel_left heq)).2
  exact ⟨rfl, portText_injective hport, hrest⟩

theorem modeText_unique {s t : List Char} {m n : SslMode}
    (h : s ++ modeText m = t ++ modeText n) : s = t ∧ m = n := by
  have hmark : ∀ m : SslMode, modeText m = '?' :: ("sslmode=" ++ m.text).toList := by
    intro m
    cases m <;> decide
  have hplain : ∀ m : SslMode, '?' ∉ ("sslmode=" ++ m.text).toList := by
    intro m
    cases m <;> decide
  have hlast := cutAtLast_append (hplain m) s
  rw [← hmark, h, hmark, cutAtLast_append (hplain n)] at hlast
  obtain ⟨rfl, htext⟩ := Prod.mk.inj (Option.some.inj hlast)
  refine ⟨rfl, SslMode.text_injective ?_⟩
  simpa [String.toList_inj] using htext.symm

end Separators

section Uniqueness
namespace Connection
variable {c e : Connection}

theorem Leftmost.user_colonless (h : c.Leftmost) (hp : c.password ≠ "") :
    ':' ∉ c.user.toList := by
  intro hmem
  obtain ⟨a, b, hab⟩ := List.append_of_mem hmem
  exact hp (h.user a b hab).2

theorem credentials_unique (hc : c.Leftmost) (he : e.Leftmost)
    (h : c.credentials = e.credentials) : c.user = e.user ∧ c.password = e.password := by
  unfold credentials at h
  by_cases hcp : c.password = ""
  · by_cases hep : e.password = ""
    · rw [if_pos hcp, if_pos hep] at h
      exact ⟨String.toList_inj.1 h, hcp.trans hep.symm⟩
    · rw [if_pos hcp, if_neg hep] at h
      exact absurd (hc.user _ _ h).1 (by simpa using hep)
  · by_cases hep : e.password = ""
    · rw [if_neg hcp, if_pos hep] at h
      exact absurd (he.user _ _ h.symm).1 (by simpa using hcp)
    · rw [if_neg hcp, if_neg hep] at h
      obtain ⟨huser, hpassword⟩ :=
        cut_unique (hc.user_colonless hcp) (he.user_colonless hep) h
      exact ⟨String.toList_inj.1 huser, String.toList_inj.1 hpassword⟩

theorem target_unique (hc : c.Leftmost) (he : e.Leftmost) (h : c.target = e.target) :
    c.database = e.database ∧ c.sslMode = e.sslMode := by
  unfold target at h
  cases hcs : c.sslMode with
  | none =>
    cases hes : e.sslMode with
    | none =>
      simp only [hcs, hes, Option.elim_none, List.append_nil] at h
      exact ⟨String.toList_inj.1 h, rfl⟩
    | some n =>
      simp only [hcs, hes, Option.elim_none, Option.elim_some, List.append_nil] at h
      exact absurd h (hc.database hcs _ n)
  | some m =>
    cases hes : e.sslMode with
    | none =>
      simp only [hcs, hes, Option.elim_none, Option.elim_some, List.append_nil] at h
      exact absurd h.symm (he.database hes _ m)
    | some n =>
      simp only [hcs, hes, Option.elim_some] at h
      obtain ⟨hdatabase, rfl⟩ := modeText_unique h
      exact ⟨String.toList_inj.1 hdatabase, rfl⟩

theorem Leftmost.unique (hc : c.Leftmost) (he : e.Leftmost) (h : c.text = e.text) : c = e := by
  obtain ⟨hcredentials, hrest⟩ := cut_unique hc.credentials he.credentials h
  obtain ⟨huser, hpassword⟩ := credentials_unique hc he hcredentials
  obtain ⟨hhost, hport, htarget⟩ := host_unique hc.host he.host hrest
  obtain ⟨hdatabase, hmode⟩ := target_unique hc he htarget
  exact Connection.ext huser hpassword (String.toList_inj.1 hhost) hport hdatabase hmode

end Connection
end Uniqueness

section Existence

/-- The user ends at the first colon, unless that is the last character. -/
theorem exists_credentials (s : List Char) : ∃ user password : String,
    (if password = "" then user.toList else user.toList ++ ':' :: password.toList) = s ∧
      ∀ a b, user.toList = a ++ ':' :: b → b = [] ∧ password = "" := by
  cases hcut : cutAt ':' s with
  | none =>
    have hno := cutAt_eq_none_iff.1 hcut
    refine ⟨String.ofList s, "", by simp, fun a b h => ?_⟩
    rw [String.toList_ofList] at h
    exact absurd (h ▸ List.mem_append_right a List.mem_cons_self) hno
  | some parts =>
    obtain ⟨u, p⟩ := parts
    obtain ⟨rfl, hu⟩ := cutAt_eq_some_iff.1 hcut
    by_cases hp : p = []
    · subst hp
      refine ⟨String.ofList (u ++ [':']), "", by simp, fun a b h => ⟨?_, rfl⟩⟩
      rw [String.toList_ofList] at h
      rcases List.append_eq_append_iff.1 h with ⟨v, -, hv⟩ | ⟨v, rfl, hv⟩
      · have hlen := congrArg List.length hv
        simp only [List.length_append, List.length_cons, List.length_nil] at hlen
        exact List.length_eq_zero_iff.1 (by omega)
      · cases v with
        | nil => exact (List.cons.inj hv).2
        | cons x v =>
          obtain ⟨rfl, -⟩ := List.cons.inj hv
          exact absurd (List.mem_append_right a List.mem_cons_self) hu
    · refine ⟨String.ofList u, String.ofList p, by simp [hp], fun a b h => ?_⟩
      rw [String.toList_ofList] at h
      exact absurd (h ▸ List.mem_append_right a List.mem_cons_self) hu

/-- The host ends where the first port stands. -/
theorem exists_host (h : List Char) (port : UInt16) (s : List Char) :
    ∃ (host : String) (p : UInt16) (t : List Char),
      host.toList ++ ':' :: (portText p ++ '/' :: t) = h ++ ':' :: (portText port ++ '/' :: s) ∧
      ∀ a r b, host.toList ≠ a ++ ':' :: (portText r ++ '/' :: b) := by
  by_cases hport : ∃ a r b, h = a ++ ':' :: (portText r ++ '/' :: b)
  · obtain ⟨a, r, b, rfl⟩ := hport
    have hshorter : a.length < (a ++ ':' :: (portText r ++ '/' :: b)).length := by simp
    obtain ⟨host, p, t, heq, hhost⟩ :=
      exists_host a r (b ++ ':' :: (portText port ++ '/' :: s))
    exact ⟨host, p, t, by simpa using heq, hhost⟩
  · refine ⟨String.ofList h, port, s, by rw [String.toList_ofList], fun a r b hab => ?_⟩
    rw [String.toList_ofList] at hab
    exact hport ⟨a, r, b, hab⟩
termination_by h.length

/-- A mode is read wherever a text ends in one. -/
theorem exists_target (s : List Char) : ∃ (database : String) (mode : Option SslMode),
    database.toList ++ mode.elim [] modeText = s ∧
      (mode = none → ∀ a m, database.toList ≠ a ++ modeText m) := by
  by_cases hmode : ∃ a m, s = a ++ modeText m
  · obtain ⟨a, m, rfl⟩ := hmode
    exact ⟨String.ofList a, some m, by simp, by simp⟩
  · refine ⟨String.ofList s, none, by simp, fun _ a m h => hmode ⟨a, m, ?_⟩⟩
    rwa [String.toList_ofList] at h

/-- What stands before the first `@` holds none, and a host with its port still follows. -/
theorem exists_at (c : Connection) : ∃ a h, '@' ∉ a ∧
    c.text = a ++ '@' :: (h ++ ':' :: (portText c.port ++ '/' :: c.target)) := by
  cases hcut : cutAt '@' c.credentials with
  | none => exact ⟨c.credentials, c.host.toList, cutAt_eq_none_iff.1 hcut, rfl⟩
  | some parts =>
    obtain ⟨a, b⟩ := parts
    obtain ⟨hsplit, ha⟩ := cutAt_eq_some_iff.1 hcut
    refine ⟨a, b ++ '@' :: c.host.toList, ha, ?_⟩
    rw [Connection.text, hsplit]
    simp

/-- Every URL can be read from the left. -/
theorem exists_leftmost (c : Connection) : ∃ e : Connection, e.Leftmost ∧ e.text = c.text := by
  obtain ⟨a, h, ha, htext⟩ := exists_at c
  obtain ⟨user, password, hcredentials, huser⟩ := exists_credentials a
  obtain ⟨host, port, t, hhost, hport⟩ := exists_host h c.port c.target
  obtain ⟨database, mode, htarget, hmode⟩ := exists_target t
  have he : Connection.credentials ⟨user, password, host, port, database, mode⟩ = a := hcredentials
  refine ⟨⟨user, password, host, port, database, mode⟩, ⟨he ▸ ha, huser, hport, hmode⟩, ?_⟩
  rw [htext, ← hhost, ← htarget, Connection.text, he]
  rfl

end Existence

/-- Settings for a connection. -/
def Connection.settings (c : Connection) : DatabaseSettings where
  host := c.host
  port := c.port
  database := c.database
  user := some c.user
  password := some c.password
  timeout := none
  sslMode := c.sslMode

/-- Among the connections that are read from the left, the URL of settings tells theirs exactly if
it is one of them. Any other settings share their URL with one of these, for another connection. -/
theorem url_determines_iff (d : DatabaseSettings) :
    (∀ e : DatabaseSettings, e.connection.Leftmost → e.url = d.url →
      e.connection = d.connection) ↔ d.connection.Leftmost := by
  constructor
  · intro h
    obtain ⟨c, hc, htext⟩ := exists_leftmost d.connection
    have hconnection : c.settings.connection = c := rfl
    have hsame := h c.settings (hconnection ▸ hc) (url_eq_iff.2 (hconnection ▸ htext))
    rwa [← hsame]
  · intro hd e he hurl
    exact he.unique hd (url_eq_iff.1 hurl)

def localSettings (user : String) (password : Option String) : DatabaseSettings :=
  ⟨"localhost", 5432, "app", some user, password, none, none⟩

/-- A colon in the name of a user is taken for the one before a password. -/
theorem colonUser_same_url :
    (localSettings "app:secret" none).url = (localSettings "app" (some "secret")).url ∧
      (localSettings "app:secret" none).connection ≠
        (localSettings "app" (some "secret")).connection := by
  decide +kernel

end RoutineBindings
