import Mathlib.Data.List.TakeWhile

/-!
# The text of a URI

What RFC 3986 says about the characters of a URI, the hosts an authority can name, and the parts
that a URI is cut into.

* Hosts: a registered name and an IPv4 address contain no colon, an IPv6 address always does.
* **`percentEncode_eq_self_iff`** — a text survives percent-encoding exactly when it consists of
  characters that are allowed to stand for themselves.
* **`afterAuthority_append`** — what follows the authority of a URI, found from its text alone.
-/

namespace Uri

/-! ## Characters -/

def unreserved (c : Char) : Bool := c.isAlphanum || "-._~".toList.contains c

def subDelim (c : Char) : Bool := "!$&'()*+,;=".toList.contains c

def hexDigit (c : Char) : Bool := c.isDigit || "abcdefABCDEF".toList.contains c

/-- The characters that a path may contain literally. -/
def pathChar (c : Char) : Bool :=
  unreserved c || subDelim c || c == ':' || c == '@' || c == '/'

/-- The characters of a domain name. -/
def nameChar (c : Char) : Bool := c.isAlphanum || c == '-' || c == '.'

/-- The number that a run of decimal digits writes. -/
def decimalValue (digits : List Char) : ℕ :=
  digits.foldl (fun n c => 10 * n + (c.toNat - '0'.toNat)) 0

/-! ## Hosts -/

/-- `reg-name` -/
inductive RegName : List Char → Prop where
  | nil : RegName []
  | char {c : Char} {cs : List Char} (hc : unreserved c || subDelim c) (hcs : RegName cs) :
    RegName (c :: cs)
  | escape {c c' : Char} {cs : List Char} (hc : hexDigit c) (hc' : hexDigit c')
    (hcs : RegName cs) : RegName ('%' :: c :: c' :: cs)

/-- `dec-octet` -/
def DecOctet (cs : List Char) : Prop :=
  cs ≠ [] ∧ (∀ c ∈ cs, c.isDigit) ∧ (cs.head? = some '0' → cs = ['0']) ∧ decimalValue cs ≤ 255

/-- `IPv4address` -/
def IPv4Address (cs : List Char) : Prop :=
  ∃ a b c d, DecOctet a ∧ DecOctet b ∧ DecOctet c ∧ DecOctet d ∧
    cs = a ++ '.' :: b ++ '.' :: c ++ '.' :: d

/-- `h16` -/
def H16 (cs : List Char) : Prop := 1 ≤ cs.length ∧ cs.length ≤ 4 ∧ ∀ c ∈ cs, hexDigit c

/-- `n( h16 ":" ) ls32` -/
def Groups : ℕ → List Char → Prop
  | 0, cs => (∃ a b, H16 a ∧ H16 b ∧ cs = a ++ ':' :: b) ∨ IPv4Address cs
  | n + 1, cs => ∃ a rest, H16 a ∧ Groups n rest ∧ cs = a ++ ':' :: rest

/-- At most `n` groups `h16`, with colons between them. -/
def UpTo (n : ℕ) (cs : List Char) : Prop :=
  ∃ groups : List (List Char), groups.length ≤ n ∧ (∀ group ∈ groups, H16 group) ∧
    cs = [':'].intercalate groups

/-- `IPv6address`: all groups, or two colons in place of some of them. -/
def IPv6Address (cs : List Char) : Prop :=
  Groups 6 cs ∨ ∃ left right, cs = left ++ ':' :: ':' :: right ∧
    ((∃ n ≤ 5, UpTo (5 - n) left ∧ Groups n right) ∨ UpTo 6 left ∧ H16 right ∨
      UpTo 7 left ∧ right = [])

/-- An IPv6 address in brackets. -/
def IPv6Literal (cs : List Char) : Prop :=
  ∃ address, IPv6Address address ∧ cs = '[' :: address ++ [']']

/-- `host`, but for the addresses of versions to come. -/
def Host (cs : List Char) : Prop := RegName cs ∨ IPv4Address cs ∨ IPv6Literal cs

lemma RegName.not_mem_colon {cs : List Char} (h : RegName cs) : ':' ∉ cs := by
  induction h with
  | nil => simp
  | char hc _ ih =>
    rw [List.mem_cons, not_or]
    refine ⟨?_, ih⟩
    rintro rfl
    exact absurd hc (by decide)
  | escape hc hc' _ ih =>
    simp only [List.mem_cons, not_or]
    refine ⟨by decide, ?_, ?_, ih⟩
    · rintro rfl
      exact absurd hc (by decide)
    · rintro rfl
      exact absurd hc' (by decide)

lemma not_mem_colon_of_digits {cs : List Char} (h : ∀ c ∈ cs, c.isDigit) : ':' ∉ cs := by
  intro hmem
  exact absurd (h _ hmem) (by decide)

lemma IPv4Address.not_mem_colon {cs : List Char} (h : IPv4Address cs) : ':' ∉ cs := by
  rcases h with ⟨a, b, c, d, ha, hb, hc, hd, rfl⟩
  have ha' := not_mem_colon_of_digits ha.2.1
  have hb' := not_mem_colon_of_digits hb.2.1
  have hc' := not_mem_colon_of_digits hc.2.1
  have hd' := not_mem_colon_of_digits hd.2.1
  simp [ha', hb', hc', hd']

lemma IPv6Address.mem_colon {cs : List Char} (h : IPv6Address cs) : ':' ∈ cs := by
  rcases h with ⟨a, rest, -, -, rfl⟩ | ⟨left, right, rfl, -⟩
  · simp
  · simp

lemma IPv6Literal.mem_colon {cs : List Char} (h : IPv6Literal cs) : ':' ∈ cs := by
  rcases h with ⟨address, haddress, rfl⟩
  have hcolon := haddress.mem_colon
  simp [hcolon]

/-- Only the addresses in brackets contain a colon. -/
lemma Host.not_mem_colon {cs : List Char} (h : Host cs) (hliteral : ¬ IPv6Literal cs) :
    ':' ∉ cs := by
  rcases h with h | h | h
  · exact h.not_mem_colon
  · exact h.not_mem_colon
  · exact absurd h hliteral

/-! ## Percent-encoding -/

/-- An upper-case hexadecimal digit. -/
def hexChar (n : ℕ) : Char := "0123456789ABCDEF".toList.getD n '0'

def escapeByte (b : UInt8) : List Char := ['%', hexChar (b.toNat / 16), hexChar (b.toNat % 16)]

/-- Every character that is not allowed is replaced by the escapes of its UTF-8 bytes. -/
def percentEncode (allowed : Char → Bool) (cs : List Char) : List Char :=
  cs.flatMap fun c => if allowed c then [c] else (String.utf8EncodeChar c).flatMap escapeByte

variable {allowed : Char → Bool}

lemma percentEncode_cons (c : Char) (cs : List Char) : percentEncode allowed (c :: cs) =
    (if allowed c then [c] else (String.utf8EncodeChar c).flatMap escapeByte) ++
      percentEncode allowed cs := List.flatMap_cons

lemma percentEncode_of_allowed {cs : List Char} (h : ∀ c ∈ cs, allowed c) :
    percentEncode allowed cs = cs := by
  induction cs with
  | nil => rfl
  | cons c cs ih =>
    rw [List.forall_mem_cons] at h
    rw [percentEncode_cons, if_pos h.1, ih h.2]
    rfl

/-- A character that is not allowed becomes at least three. -/
lemma length_escape (c : Char) :
    3 ≤ ((String.utf8EncodeChar c).flatMap escapeByte).length := by
  rcases hbytes : String.utf8EncodeChar c with _ | ⟨b, bytes⟩
  · exact absurd hbytes String.utf8EncodeChar_ne_nil
  · simp [escapeByte]

lemma length_le_percentEncode (cs : List Char) :
    cs.length ≤ (percentEncode allowed cs).length := by
  induction cs with
  | nil => exact Nat.zero_le _
  | cons c cs ih =>
    rw [percentEncode_cons, List.length_append, List.length_cons]
    have hescape := length_escape c
    split_ifs
    · simp only [List.length_singleton]
      omega
    · omega

/-- **What percent-encoding leaves alone.** -/
theorem percentEncode_eq_self_iff {cs : List Char} :
    percentEncode allowed cs = cs ↔ ∀ c ∈ cs, allowed c := by
  refine ⟨?_, percentEncode_of_allowed⟩
  induction cs with
  | nil => simp
  | cons c cs ih =>
    intro heq
    rw [percentEncode_cons] at heq
    by_cases hc : allowed c
    · rw [if_pos hc] at heq
      exact List.forall_mem_cons.2 ⟨hc, ih (List.cons.inj heq).2⟩
    · rw [if_neg hc] at heq
      have hlength := congrArg List.length heq
      rw [List.length_append, List.length_cons] at hlength
      have hescape := length_escape c
      have hrest : cs.length ≤ (percentEncode allowed cs).length := length_le_percentEncode cs
      omega

/-! ## The parts of a URI -/

/-- What follows the scheme and its colon. -/
def afterScheme (uri : List Char) : List Char := (uri.dropWhile (· != ':')).drop 1

/-- What follows the scheme and the authority: the path, the query and the fragment. -/
def afterAuthority (uri : List Char) : List Char :=
  match afterScheme uri with
  | '/' :: '/' :: rest => rest.dropWhile fun c => c != '/' && c != '?' && c != '#'
  | rest => rest

/-- The path, of what follows the authority. -/
def path (target : List Char) : List Char := target.takeWhile fun c => c != '?' && c != '#'

/-- The query, of what follows the authority. -/
def query (target : List Char) : Option (List Char) :=
  match (target.takeWhile (· != '#')).dropWhile (· != '?') with
  | _ :: query => some query
  | [] => none

/-- **What follows the authority** is found again in a URI. -/
theorem afterAuthority_append {scheme authority target : List Char} (hscheme : ':' ∉ scheme)
    (hauthority : ∀ c ∈ authority, c ≠ '/' ∧ c ≠ '?' ∧ c ≠ '#')
    (htarget : target.head? = some '/') :
    afterAuthority (scheme ++ ':' :: '/' :: '/' :: authority ++ target) = target := by
  have hafter : afterScheme (scheme ++ ':' :: '/' :: '/' :: authority ++ target) =
      '/' :: '/' :: (authority ++ target) := by
    have hnot : ∀ c ∈ scheme, (c != ':') = true := by
      intro c hc
      refine bne_iff_ne.2 ?_
      rintro rfl
      exact hscheme hc
    rw [afterScheme, List.append_assoc, List.dropWhile_append_of_pos hnot]
    rfl
  have hnot : ∀ c ∈ authority, (c != '/' && c != '?' && c != '#') = true := by
    intro c hc
    simp [hauthority c hc]
  rw [afterAuthority, hafter]
  show (authority ++ target).dropWhile _ = target
  rw [List.dropWhile_append_of_pos hnot]
  match target, htarget with
  | c :: rest, hc =>
    rw [List.head?_cons, Option.some.injEq] at hc
    rw [hc]
    rfl

lemma path_of_pathChar {target : List Char} (h : ∀ c ∈ target, pathChar c) :
    path target = target := by
  refine List.takeWhile_eq_self_iff.2 ?_
  intro c hc
  have hnot : c ≠ '?' ∧ c ≠ '#' := by
    constructor
    · rintro rfl
      exact absurd (h _ hc) (by decide)
    · rintro rfl
      exact absurd (h _ hc) (by decide)
  simp [hnot]

lemma query_of_pathChar {target : List Char} (h : ∀ c ∈ target, pathChar c) :
    query target = none := by
  have hnone : (target.takeWhile (· != '#')).dropWhile (· != '?') = [] := by
    refine List.dropWhile_eq_nil_iff.2 ?_
    intro c hc
    refine bne_iff_ne.2 ?_
    rintro rfl
    exact absurd (h _ ((List.takeWhile_prefix _).subset hc)) (by decide)
  rw [query, hnone]

end Uri
