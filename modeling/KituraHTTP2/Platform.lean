import KituraHTTP2.Lib.Base64
import Mathlib.Data.List.Basic
import Mathlib.Algebra.Order.Ring.Int

/-!
# What the session takes from Swift, Foundation and KituraNet

Four kinds of thing are used by the HTTP/2 layer without being part of it.

* **Bytes and strings.**  `String(data:encoding:.utf8)` and `string.data(using: .utf8)` are Lean's
  own UTF-8 decoder and encoder (`utf8Decode`, `utf8Encode`), the second inverse to the first.
  `Int(_:)` on a string and `components(separatedBy:)` are spelled out (`swiftInt`,
  `componentsSeparatedBy`).
* **`URLComponents`.**  The session assigns its path, scheme, host and port and asks for its `url`.
  The assigned values are a record; assigning a negative port is a fatal error in Foundation, so
  `setPort` is partial.  What `url` answers is Foundation's business.
* **`HeadersContainer`.**  KituraNet's class of header fields, of which the session uses the empty
  container, `append`, the subscript, and the iteration over the entries.
* **Base64.**  `Data(base64Encoded:)`, which reads the settings of an upgrade request.

`Platform` bundles what is left open: the two types and their operations.  Everything below is
proved for every platform.
-/

namespace KituraHTTP2

/-- `Data`, `[UInt8]` and the byte ranges nghttp2 passes to the callbacks. -/
abbrev Bytes := List UInt8

/-- An HTTP/2 stream identifier (`Int32`). -/
abbrev StreamId := ℤ

/-- A machine address (`UnsafeMutableRawPointer`). -/
abbrev Addr := ℕ

/-! ## Strings -/

/-- `String(data:encoding:.utf8)`: `none` where the bytes are not well-formed UTF-8. -/
def utf8Decode (data : Bytes) : Option String := String.fromUTF8? ⟨data.toArray⟩

/-- `string.data(using: .utf8)`, which never fails for a Swift string. -/
def utf8Encode (string : String) : Bytes := string.toUTF8.data.toList

lemma utf8Decode_eq_some_iff {data : Bytes} {string : String} :
    utf8Decode data = some string ↔ data = utf8Encode string := by
  unfold utf8Decode utf8Encode String.fromUTF8?
  constructor
  · intro h
    split at h
    · rw [Option.some.injEq] at h
      subst h
      rfl
    · cases h
  · rintro rfl
    simp only [Array.toArray_toList, String.toUTF8_eq_toByteArray, dif_pos string.isValidUTF8]
    rfl

/-- Decoding undoes encoding. -/
@[simp]
lemma utf8Decode_utf8Encode (string : String) : utf8Decode (utf8Encode string) = some string :=
  utf8Decode_eq_some_iff.2 rfl

/-- The character of an ASCII byte. -/
def asciiChar (b : UInt8) : Char := Char.ofNat b.toNat

lemma utf8EncodeChar_of_ascii : ∀ n < 128,
    String.utf8EncodeChar (Char.ofNat n) = [UInt8.ofNat n] := by decide

lemma utf8Encode_ofList (cs : List Char) :
    utf8Encode (String.ofList cs) = cs.flatMap String.utf8EncodeChar := by
  simp [utf8Encode, List.utf8Encode]

/-- ASCII is UTF-8. -/
lemma utf8Decode_of_ascii {data : Bytes} (h : ∀ b ∈ data, b.toNat < 128) :
    utf8Decode data = some (String.ofList (data.map asciiChar)) := by
  rw [utf8Decode_eq_some_iff, utf8Encode_ofList]
  induction data with
  | nil => rfl
  | cons b data ih =>
    rw [List.forall_mem_cons] at h
    rw [List.map_cons, List.flatMap_cons, ← ih h.2, asciiChar, utf8EncodeChar_of_ascii _ h.1]
    simp

/-- `string.components(separatedBy:)` for a separator of one ASCII character. -/
def componentsSeparatedBy (separator : Char) (string : String) : List String :=
  (string.toList.splitOn separator).map String.ofList

/-- The value of a run of decimal digits, `none` at the first character that is not one. -/
def digitsValue : ℕ → List Char → Option ℕ
  | acc, [] => some acc
  | acc, c :: cs => if c.isDigit then digitsValue (10 * acc + (c.toNat - '0'.toNat)) cs else none

/-- Swift's `Int(_: String)`: an optional sign and at least one decimal digit, `nil` where the
value does not fit 64 bits. -/
def swiftInt (string : String) : Option ℤ :=
  let magnitude : List Char → Option ℤ
    | [] => none
    | cs => (digitsValue 0 cs).map Int.ofNat
  let value : Option ℤ := match string.toList with
    | '-' :: cs => (magnitude cs).map Neg.neg
    | '+' :: cs => magnitude cs
    | cs => magnitude cs
  value.filter fun v => -2 ^ 63 ≤ v ∧ v < 2 ^ 63

/-! ## `URLComponents` -/

/-- The components a `URLComponents` value was given. -/
structure URLComponents where
  path : String := ""
  scheme : Option String := none
  host : Option String := none
  port : Option ℤ := none
deriving DecidableEq, Repr

/-- Assign `port`.  Foundation stops the process at a negative one. -/
def URLComponents.setPort (components : URLComponents) : Option ℤ → Option URLComponents
  | some port => if port < 0 then none else some { components with port := some port }
  | none => some { components with port := none }

/-! ## The platform -/

/-- The types and operations of KituraNet and Foundation that the session uses and that are not
part of it. -/
structure Platform where
  /-- KituraNet's container of header fields (the object's contents) -/
  HeadersContainer : Type
  /-- `HeadersContainer()` -/
  emptyHeaders : HeadersContainer
  /-- `headers.append(key, value: [String])` -/
  append : HeadersContainer → String → List String → HeadersContainer
  /-- `headers[key] = values`, where `nil` removes the entry -/
  assign : HeadersContainer → String → Option (List String) → HeadersContainer
  /-- `headers[key]` -/
  lookup : HeadersContainer → String → Option (List String)
  /-- the key and value pairs, in the order an iteration gives them -/
  entries : HeadersContainer → List (String × List String)
  /-- Foundation's `URL` -/
  URL : Type
  /-- `components.url` -/
  url : URLComponents → Option URL
  /-- `Data(base64Encoded:)` -/
  base64Decoded : String → Option Bytes

/-- `for (key, value) in source { target.append(key, value: value) }` -/
def Platform.appendAll (P : Platform) (target : P.HeadersContainer)
    (source : P.HeadersContainer) : P.HeadersContainer :=
  (P.entries source).foldl (fun headers entry => P.append headers entry.1 entry.2) target

/-! ## A concrete platform

The statements hold for every platform.  This one, on which they can be run, keeps the fields in the
order of their first use, joins repeated ones, and has Foundation's rule for the path of a URL: it
begins with a slash where there is a host, and not with two where there is none.  Its base64 decoder
is strict.
-/

namespace BasicPlatform

/-- `append` for field names in lower case. -/
def append (headers : List (String × List String)) (key : String) (values : List String) :
    List (String × List String) :=
  if headers.any (·.1 == key) then
    headers.map fun entry =>
      if entry.1 == key then (key, [String.intercalate ", " (entry.2 ++ values)]) else entry
  else headers ++ [(key, values)]

/-- The assignment through the subscript. -/
def assign (headers : List (String × List String)) (key : String)
    (values : Option (List String)) : List (String × List String) :=
  headers.filter (·.1 != key) ++ values.toList.map fun values => (key, values)

/-- `components.url` -/
def url (components : URLComponents) : Option URLComponents :=
  let path := components.path.toList
  if components.host.isSome then
    if path.isEmpty || path.head? == some '/' then some components else none
  else if path.take 2 == ['/', '/'] then none else some components

end BasicPlatform

/-- A platform to run the session on. -/
def Platform.basic : Platform where
  HeadersContainer := List (String × List String)
  emptyHeaders := []
  append := BasicPlatform.append
  assign := BasicPlatform.assign
  lookup := fun headers key => (headers.find? (·.1 == key)).map Prod.snd
  entries := id
  URL := URLComponents
  url := BasicPlatform.url
  base64Decoded := fun string => Base64.decode string.toList

end KituraHTTP2
