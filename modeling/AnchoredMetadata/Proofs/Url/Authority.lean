import AnchoredMetadata.Proofs.Except
import AnchoredMetadata.Proofs.Url.Host
import AnchoredMetadata.Proofs.Url.Percent
import Mathlib.Data.List.TakeWhile

/-!
# Authorities read back

User, password, host and port are told apart by signs that none of them holds. So a written
authority reads back as itself once its host does.
-/

namespace AnchoredMetadata.Url

theorem keepsEncoded_user : KeepsEncoded reservedInUser := by decide

/-- A port that can be read: a number of sixteen bits that the scheme does not take by itself. -/
def IsPort (scheme : List Char) (port : Option Nat) : Prop :=
  ∀ n, port = some n → n ≤ 65535 ∧ defaultPort scheme ≠ some n

/-- An authority that is read for a scheme of the web. -/
structure Authority.IsServer (scheme : List Char) (a : Authority) : Prop where
  /-- The user needs no encoding. -/
  user : ∀ c ∈ a.user, IsPlain reservedInUser c
  /-- Nor does the password. -/
  password : ∀ c ∈ a.password, IsPlain reservedInUser c
  /-- The host is one that can be read. -/
  host : a.host.IsServer
  /-- So is the port. -/
  port : IsPort scheme a.port

/-- The text of an authority after the slashes. -/
def Authority.body (a : Authority) : List Char :=
  a.credentialsText ++ (a.host.text ++ portText a.port)

/-! ## Ports -/

theorem isPort_readPort {scheme cs : List Char} {port : Option Nat}
    (h : readPort scheme cs = .ok port) : IsPort scheme port := by
  unfold readPort at h
  split at h
  · cases h
  · split at h
    · cases h
    · next n _ =>
      split at h
      · cases h
      · next hle =>
        split at h
        · cases h
          exact nofun
        · next hother =>
          cases h
          intro m hm
          cases hm
          rw [Bool.or_eq_true, decide_eq_true_eq, not_or] at hother
          exact ⟨Nat.le_of_not_lt hle, hother.2⟩

theorem readPort_written {scheme : List Char} {n : Nat} (h : IsPort scheme (some n)) :
    readPort scheme (Nat.toDigits 10 n) = .ok (some n) := by
  obtain ⟨hle, hother⟩ := h n rfl
  have hdigit : ∀ d < 10, (d.digitChar < '0' || '9' < d.digitChar) = false := by decide
  have hdigits : ((Nat.toDigits 10 n).any fun c => c < '0' || '9' < c) = false := by
    refine List.any_eq_false.mpr fun c hc => ?_
    obtain ⟨d, hd, rfl⟩ := Text.exists_digit_of_mem (by decide) hc
    rw [hdigit d hd]
    exact Bool.false_ne_true
  have hnonempty : (Nat.toDigits 10 n).isEmpty = false :=
    List.isEmpty_eq_false_iff.mpr Nat.toDigits_ne_nil
  rw [readPort, hdigits, if_neg Bool.false_ne_true, digitsValue?_toDigits (by decide) (by decide)]
  simp only [hnonempty, decide_eq_false hother, Bool.or_false]
  rw [if_neg (by omega), if_neg Bool.false_ne_true]

/-! ## Servers -/

theorem isEmpty_of_isServer {host : Host} (h : host.IsServer) : host.isEmpty = false := by
  cases host with
  | name t =>
    rw [Host.isEmpty, decide_eq_false_iff_not]
    intro heq
    exact h.1 (Host.name.inj heq)
  | ipv4 n => rfl
  | ipv6 ps => rfl

theorem server_of_readServer {scheme cs : List Char} {host : Host} {port : Option Nat}
    {rest : List Char} (h : readServer .web scheme cs = .ok (host, port, rest)) :
    host.IsServer ∧ IsPort scheme port := by
  rw [readServer] at h
  split at h
  obtain ⟨found, hfound, h⟩ := bind_eq_ok h
  have hserver := isServer_readHost hfound
  split at h
  · cases h
    exact ⟨hserver, nofun⟩
  · rw [isEmpty_of_isServer hserver, if_neg Bool.false_ne_true] at h
    obtain ⟨_, hport, h⟩ := bind_eq_ok h
    cases h
    exact ⟨hserver, isPort_readPort hport⟩

theorem readServer_written {scheme : List Char} {host : Host} (hhost : host.IsServer)
    {port : Option Nat} (hport : IsPort scheme port) :
    readServer .web scheme (host.text ++ portText port) =
      (readHost .web host.text).map fun h => (h, port, []) := by
  rw [readServer, splitPort_host hhost]
  cases hread : readHost .web host.text with
  | error e =>
    simp only [hread, bind, Except.bind]
    rfl
  | ok found =>
    cases port with
    | none =>
      simp only [Option.map_none, hread, bind, Except.bind]
      rfl
    | some n =>
      have hback : (Nat.toDigits 10 n).takeWhile (· ≠ '\\') = Nat.toDigits 10 n := by
        refine List.takeWhile_eq_self_iff.mpr fun c hc => ?_
        obtain ⟨d, hd, rfl⟩ := Text.exists_digit_of_mem (by decide) hc
        have hne : ∀ d < 10, d.digitChar ≠ '\\' := by decide
        exact decide_eq_true (hne d hd)
      have hfound := isEmpty_of_isServer (isServer_readHost hread)
      simp only [Option.map_some, hread, bind, Except.bind, hfound, Bool.false_eq_true, if_false,
        hback, readPort_written hport, List.drop_length]
      rfl

/-! ## Users and passwords -/

theorem splitLast_none {p : Char → Bool} {cs : List Char} (h : ∀ c ∈ cs, p c = false) :
    splitLast p cs = none := by
  have hafter : cs.reverse.takeWhile (fun c => !p c) = cs.reverse := by
    refine List.takeWhile_eq_self_iff.mpr fun c hc => ?_
    rw [h c (List.mem_reverse.mp hc)]
    rfl
  rw [splitLast, hafter, List.reverse_reverse]
  exact if_neg (Nat.lt_irrefl _)

theorem splitLast_append {p : Char → Bool} {c : Char} (hc : p c = true) (before : List Char)
    {after : List Char} (h : ∀ d ∈ after, p d = false) :
    splitLast p (before ++ c :: after) = some (before, after) := by
  have hafter : ((before ++ c :: after).reverse.takeWhile fun d => !p d).reverse = after := by
    rw [List.reverse_append, List.reverse_cons, List.append_assoc, List.takeWhile_append_of_pos]
    · rw [List.singleton_append, List.takeWhile_cons_of_neg, List.append_nil, List.reverse_reverse]
      rw [hc]
      exact Bool.false_ne_true
    · intro d hd
      rw [h d (List.mem_reverse.mp hd)]
      rfl
  rw [splitLast, hafter]
  simp only [List.length_append, List.length_cons]
  rw [if_pos (by omega)]
  have htake : before.length + (after.length + 1) - after.length - 1 = before.length := by omega
  rw [htake, List.take_left]

theorem isServer_readAuthority {scheme cs : List Char} {a : Authority} {rest : List Char}
    (h : readAuthority .web scheme cs = .ok (a, rest)) : a.IsServer scheme := by
  rw [readAuthority] at h
  split at h
  · obtain ⟨⟨host, port, left⟩, hserver, h⟩ := bind_eq_ok h
    cases h
    obtain ⟨hhost, hport⟩ := server_of_readServer hserver
    exact ⟨nofun, nofun, hhost, hport⟩
  · next before server _ =>
    rw [readCredentials] at h
    obtain ⟨⟨host, port, left⟩, hserver, h⟩ := bind_eq_ok h
    obtain ⟨hhost, hport⟩ := server_of_readServer hserver
    simp only [isEmpty_of_isServer hhost, Bool.false_and, Bool.false_eq_true, if_false] at h
    cases h
    exact ⟨isPlain_percentEncode keepsEncoded_user _, isPlain_percentEncode keepsEncoded_user _,
      hhost, hport⟩

theorem server_characters {scheme : List Char} {a : Authority} (h : a.IsServer scheme) :
    ∀ c ∈ a.host.text ++ portText a.port, IsHostChar c := by
  refine List.forall_mem_append.mpr ⟨h.host.characters, ?_⟩
  cases a.port with
  | none => exact nofun
  | some n =>
    refine List.forall_mem_cons.mpr ⟨by decide, fun c hc => ?_⟩
    obtain ⟨d, hd, rfl⟩ := Text.exists_digit_of_mem (by decide) hc
    exact (isHostChar_digitChar d (by omega)).1

/-- User and password stand before a sign that ends them, unless there is neither. -/
theorem credentials_cases {scheme : List Char} {a : Authority} (h : a.IsServer scheme) :
    (a.user = [] ∧ a.password = [] ∧ a.credentialsText = []) ∨
      ∃ before, a.credentialsText = before ++ ['@'] ∧
        readCredentials before = (a.user, a.password) := by
  have huser := percentEncode_plain h.user
  have hpassword := percentEncode_plain h.password
  have hcolon : ∀ c ∈ a.user, decide (c ≠ ':') = true := by
    intro c hc
    refine decide_eq_true fun heq => (h.user c hc).2.2 ?_
    rw [heq]
    decide
  by_cases hnone : a.password = []
  · by_cases hempty : a.user = []
    · refine Or.inl ⟨hempty, hnone, ?_⟩
      rw [Authority.credentialsText, hempty, hnone]
      rfl
    · refine Or.inr ⟨a.user, ?_, ?_⟩
      · rw [Authority.credentialsText, hnone, List.isEmpty_eq_false_iff.mpr hempty]
        rfl
      · rw [readCredentials, List.takeWhile_eq_self_iff.mpr hcolon, huser, hnone,
          List.drop_eq_nil_of_le (Nat.le_succ _)]
        rfl
  · refine Or.inr ⟨a.user ++ ':' :: a.password, ?_, ?_⟩
    · rw [Authority.credentialsText, List.isEmpty_eq_false_iff.mpr hnone, Bool.and_false]
      rfl
    · have htake : (a.user ++ ':' :: a.password).takeWhile (· ≠ ':') = a.user := by
        rw [List.takeWhile_append_of_pos hcolon, List.takeWhile_cons_of_neg (by decide),
          List.append_nil]
      have hdrop : (a.user ++ ':' :: a.password).drop (a.user.length + 1) = a.password := by
        rw [← List.singleton_append, ← List.append_assoc]
        exact List.drop_left' (by rw [List.length_append, List.length_singleton])
      rw [readCredentials, htake, hdrop, huser, hpassword]

theorem readAuthority_written {scheme : List Char} {a : Authority} (h : a.IsServer scheme) :
    readAuthority .web scheme a.body =
      (readHost .web a.host.text).map fun host => ({ a with host }, []) := by
  have hfree : ∀ c ∈ a.host.text ++ portText a.port, decide (c = '@') = false := by
    intro c hc
    refine decide_eq_false fun heq => (server_characters h c hc).2 ?_
    rw [heq]
    decide
  have hserver := readServer_written h.host h.port
  rcases credentials_cases h with ⟨huser, hpassword, hnone⟩ | ⟨before, hbefore, hread⟩
  · rw [Authority.body, hnone, List.nil_append, readAuthority, splitLast_none hfree]
    simp only [hserver]
    cases readHost .web a.host.text with
    | error e => rfl
    | ok host =>
      have hsame : ({ a with host } : Authority) = ⟨[], [], host, a.port⟩ := by
        rw [huser, hpassword]
      exact congrArg (fun b => Except.ok (b, [])) hsame.symm
  · rw [Authority.body, hbefore, List.append_assoc, List.singleton_append, readAuthority,
      splitLast_append (decide_eq_true rfl) before hfree]
    simp only [hread, hserver]
    cases hhost : readHost .web a.host.text with
    | error e => rfl
    | ok host =>
      simp only [Except.map, bind, Except.bind, isEmpty_of_isServer (isServer_readHost hhost),
        Bool.false_and, Bool.false_eq_true, if_false]
      rfl

end AnchoredMetadata.Url
