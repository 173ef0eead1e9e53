import KituraHTTP2.BuiltRequest
import KituraHTTP2.HeadersContainer
import Mathlib

/-!
# The headers of a request

A field goes through a UTF-8 decoding, which drops the field where it fails, into the container of
its stream, and with the container into that of the request.  KituraNet's `append` decides what
becomes of a name that occurs twice: a list for `set-cookie`, the first value for the names that
have a single value, and for all others the values joined with a comma; a cookie, which HTTP/2 lets
a client split into several fields, is to be joined with a semicolon.

* `lookup_collected` — what the container of a stream holds under a name.
* `lookup_appendAll` — the copy into the request holds the same.
* **`headers_complete_iff`** — the delegate sees every field completely exactly when every value is
  UTF-8, and neither a cookie nor a field with a single value is repeated.
-/

namespace KituraHTTP2

open Machine HTTP2Session

variable {P : Platform}

/-! ## What is left of several values -/

/-- The values that `append` makes of single ones, given one after the other. -/
def mergedValues (singleValued : String → Bool) (key : String) (values : List String) :
    Option (List String) :=
  values.foldl (fun old value => some (mergeValues singleValued key old [value])) none

/-- What is left of the values of a key. -/
lemma mergedValues_eq (singleValued : String → Bool) (key value : String) (values : List String) :
    mergedValues singleValued key (value :: values) = some (
      if key = "set-cookie" then value :: values
      else if singleValued key then [value]
      else [", ".intercalate (value :: values)]) := by
  induction values using List.reverseRecOn with
  | nil =>
    show some [value] = _
    split_ifs
    · rfl
    · rfl
    · rw [String.intercalate_singleton]
  | append_singleton values last ih =>
    rw [mergedValues] at ih ⊢
    rw [← List.cons_append, List.foldl_append, ih]
    simp only [List.foldl_cons, List.foldl_nil, mergeValues]
    split_ifs
    · rfl
    · rfl
    · rw [String.intercalate_append_of_ne_nil (List.cons_ne_nil _ _) (List.cons_ne_nil _ _)]

section Container

variable {lowercased : String → String} {singleValued : String → Bool}

/-- Single values, appended to an empty container. -/
lemma lookup_foldl_append (hlaws : HeadersLaws P lowercased singleValued)
    (fields : List (String × String)) (key : String) (hkey : lowercased key = key)
    (hfields : ∀ field ∈ fields, lowercased field.1 = field.1) :
    P.lookup (fields.foldl (fun headers field => P.append headers field.1 [field.2])
        P.emptyHeaders) key =
      mergedValues singleValued key ((fields.filter (·.1 = key)).map Prod.snd) := by
  induction fields using List.reverseRecOn with
  | nil => exact hlaws.lookup_empty key
  | append_singleton fields field ih =>
    rw [List.forall_mem_append, List.forall_mem_singleton] at hfields
    rw [List.foldl_append, List.filter_append, List.map_append, mergedValues, List.foldl_append]
    by_cases hname : field.1 = key
    · have hlast : ([field].filter (·.1 = key)).map Prod.snd = [field.2] := by simp [hname]
      simp only [hlast, List.foldl_cons, List.foldl_nil]
      rw [hlaws.lookup_append_self _ _ _ _ (by rw [hname]), ih hfields.1, hname, hkey]
      rfl
    · have hlast : ([field].filter (·.1 = key)).map Prod.snd = [] := by simp [hname]
      have hother : lowercased key ≠ lowercased field.1 := by
        rw [hkey, hfields.2]
        exact Ne.symm hname
      simp only [hlast, List.foldl_cons, List.foldl_nil]
      rw [hlaws.lookup_append_other _ _ _ _ hother]
      exact ih hfields.1

/-- Entries with different keys, appended to an empty container: each is found again. -/
lemma lookup_foldl_entries (hlaws : HeadersLaws P lowercased singleValued)
    (entries : List (String × List String)) (key : String)
    (hnodup : (entries.map fun entry => lowercased entry.1).Nodup) :
    P.lookup (entries.foldl (fun headers entry => P.append headers entry.1 entry.2)
        P.emptyHeaders) key =
      (entries.find? fun entry => lowercased entry.1 = lowercased key).map Prod.snd := by
  induction entries using List.reverseRecOn with
  | nil => exact hlaws.lookup_empty key
  | append_singleton entries entry ih =>
    rw [List.map_append, List.nodup_append] at hnodup
    rw [List.foldl_append, List.find?_append]
    simp only [List.foldl_cons, List.foldl_nil]
    by_cases hname : lowercased key = lowercased entry.1
    · have hnone : (entries.find? fun entry => lowercased entry.1 = lowercased key) = none := by
        refine List.find?_eq_none.2 ?_
        intro other hother heq
        rw [decide_eq_true_eq] at heq
        exact hnodup.2.2 _ (List.mem_map_of_mem hother) _ (List.mem_map_of_mem
          List.mem_cons_self) (heq.trans hname)
      rw [hlaws.lookup_append_self _ _ _ _ hname, ih hnodup.1, hnone]
      simp [mergeValues, hname]
    · rw [hlaws.lookup_append_other _ _ _ _ hname, ih hnodup.1]
      simp [Ne.symm hname]

/-- **The second copy loop loses nothing.** -/
theorem lookup_appendAll (hlaws : HeadersLaws P lowercased singleValued)
    (headers : P.HeadersContainer) (key : String) :
    P.lookup (P.appendAll P.emptyHeaders headers) key = P.lookup headers key := by
  rw [Platform.appendAll, lookup_foldl_entries hlaws _ _ (hlaws.nodup headers)]
  rcases hfind : (P.entries headers).find? fun entry => lowercased entry.1 = lowercased key with
    _ | entry
  · rw [hfind]
    by_contra hne
    have hsome : (P.lookup headers key).isSome := Option.isSome_iff_ne_none.2 (Ne.symm hne)
    rcases hlaws.exists_entry headers key hsome with ⟨entry, hentry, hname⟩
    exact List.find?_eq_none.1 hfind entry hentry (decide_eq_true hname)
  · have hname := List.find?_some hfind
    rw [decide_eq_true_eq] at hname
    rw [hfind]
    exact (hlaws.lookup_entry headers entry (List.mem_of_find?_eq_some hfind) key hname.symm).symm

end Container

/-! ## What the delegate should see -/

/-- The values received under a name, in their order. -/
def valuesOf (fields : List (Bytes × Bytes)) (name : Bytes) : List Bytes :=
  (fields.filter (·.1 = name)).map Prod.snd

/-- Texts for values: any text will do for a value that is not UTF-8. -/
def Texts (values : List Bytes) (texts : List String) : Prop :=
  List.Forall₂ (fun value text => ∀ decoded, utf8Decode value = some decoded → text = decoded)
    values texts

/-- What a name should be looked up as: all its values, as a list for `set-cookie`, and joined
otherwise, with a semicolon for `cookie`. -/
def exposedValues (name : String) (texts : List String) : List String :=
  if name = "set-cookie" then texts
  else if name = "cookie" then ["; ".intercalate texts]
  else [", ".intercalate texts]

/-- The container exposes every regular field, with all values of its name. -/
def Exposes (P : Platform) (fields : List (Bytes × Bytes)) (headers : P.HeadersContainer) : Prop :=
  ∀ field ∈ fields, field.1.head? ≠ some (Nghttp2.ascii ':') →
    ∃ name texts, utf8Decode field.1 = some name ∧ Texts (valuesOf fields field.1) texts ∧
      P.lookup headers name = some (exposedValues name texts)

/-- The values of a name can be kept: they are UTF-8, and there is one where several would not be
kept as they should. -/
def Keepable (singleValued : String → Bool) (name : String) (values : List Bytes) : Prop :=
  (∀ value ∈ values, (utf8Decode value).isSome) ∧
    (name = "cookie" ∨ singleValued name = true → values.length ≤ 1)

instance (singleValued : String → Bool) (name : String) (values : List Bytes) :
    Decidable (Keepable singleValued name values) :=
  inferInstanceAs (Decidable (_ ∧ _))

/-- Every regular field can be kept. -/
def AllKeepable (singleValued : String → Bool) (fields : List (Bytes × Bytes)) : Prop :=
  ∀ field ∈ fields, field.1.head? ≠ some (Nghttp2.ascii ':') →
    ∀ name ∈ utf8Decode field.1, Keepable singleValued name (valuesOf fields field.1)

instance (singleValued : String → Bool) (fields : List (Bytes × Bytes)) :
    Decidable (AllKeepable singleValued fields) :=
  inferInstanceAs (Decidable (∀ field ∈ fields, field.1.head? ≠ some (Nghttp2.ascii ':') →
    ∀ name ∈ utf8Decode field.1, Keepable singleValued name (valuesOf fields field.1)))

/-! ## One name -/

/-- The length of texts joined with separators of two characters, and two more. -/
def joinedLength (texts : List String) : ℕ := (texts.map fun text => text.length + 2).sum

lemma joinedLength_cons (text : String) (texts : List String) :
    joinedLength (text :: texts) = text.length + 2 + joinedLength texts :=
  List.sum_cons

/-- A text is as long as several texts only if there are no others. -/
lemma eq_nil_of_joinedLength_le {text : String} {texts : List String}
    (h : joinedLength (text :: texts) ≤ text.length + 2) : texts = [] := by
  rcases texts with _ | ⟨next, texts⟩
  · rfl
  · rw [joinedLength_cons, joinedLength_cons] at h
    omega

lemma length_intercalate {separator : String} (hlength : separator.length = 2) (text : String)
    (texts : List String) :
    (separator.intercalate (text :: texts)).length + 2 = joinedLength (text :: texts) := by
  induction texts generalizing text with
  | nil => simp [joinedLength]
  | cons next texts ih =>
    have hrest := ih next
    rw [String.intercalate_cons_cons, String.length_append, String.length_append, hlength]
    simp only [joinedLength, List.map_cons, List.sum_cons] at hrest ⊢
    omega

/-- What is dropped is missing in the length. -/
lemma Texts.joinedLength_le {values : List Bytes} {texts : List String} (h : Texts values texts) :
    joinedLength (values.filterMap utf8Decode) ≤ joinedLength texts ∧
      (joinedLength (values.filterMap utf8Decode) = joinedLength texts →
        values.filterMap utf8Decode = texts ∧ ∀ value ∈ values, (utf8Decode value).isSome) := by
  induction h with
  | nil => exact ⟨Nat.le_refl _, fun _ => ⟨rfl, by simp⟩⟩
  | @cons value text values texts htext _ ih =>
    simp only [joinedLength, List.map_cons, List.sum_cons] at ih ⊢
    rcases hdecode : utf8Decode value with _ | decoded
    · rw [List.filterMap_cons_none hdecode]
      exact ⟨by omega, fun heq => by omega⟩
    · rw [List.filterMap_cons_some hdecode, htext decoded hdecode, List.map_cons, List.sum_cons]
      refine ⟨by omega, fun heq => ?_⟩
      rcases ih.2 (by omega) with ⟨hsame, hall⟩
      exact ⟨by rw [hsame], List.forall_mem_cons.2 ⟨by rw [hdecode]; rfl, hall⟩⟩

/-- Two values joined with a comma are not joined with a semicolon. -/
lemma single_of_join_eq {text : String} {texts : List String}
    (h : ", ".intercalate (text :: texts) = "; ".intercalate (text :: texts)) : texts = [] := by
  rcases texts with _ | ⟨next, texts⟩
  · rfl
  · rw [String.intercalate_cons_cons, String.intercalate_cons_cons, String.append_assoc,
      String.append_assoc, ← String.toList_inj] at h
    simp only [String.toList_append] at h
    exact absurd (List.cons.inj (List.append_cancel_left h)).1 (by decide)

/-- Values that are all UTF-8 are their texts. -/
lemma texts_filterMap {values : List Bytes} (h : ∀ value ∈ values, (utf8Decode value).isSome) :
    Texts values (values.filterMap utf8Decode) := by
  induction values with
  | nil => exact List.Forall₂.nil
  | cons value values ih =>
    rw [List.forall_mem_cons] at h
    rcases Option.isSome_iff_exists.1 h.1 with ⟨decoded, hdecoded⟩
    rw [List.filterMap_cons_some hdecoded]
    refine List.Forall₂.cons ?_ (ih h.2)
    intro decoded' hdecoded'
    exact Option.some.inj (hdecoded.symm.trans hdecoded')

/-- The names that several values are joined for are joined with two characters. -/
lemma exposedValues_joined {name : String} (hname : name ≠ "set-cookie") (text : String)
    (texts : List String) : ∃ separator : String, (name = "cookie" → separator = "; ") ∧
      exposedValues name (text :: texts) = [separator.intercalate (text :: texts)] ∧
      (separator.intercalate (text :: texts)).length + 2 = joinedLength (text :: texts) := by
  by_cases hcookie : name = "cookie"
  · refine ⟨"; ", fun _ => rfl, ?_, length_intercalate rfl text texts⟩
    rw [exposedValues, if_neg hname, if_pos hcookie]
  · refine ⟨", ", fun h => absurd h hcookie, ?_, length_intercalate rfl text texts⟩
    rw [exposedValues, if_neg hname, if_neg hcookie]

/-- Values that are kept as they should be are UTF-8, and a single one where that is needed. -/
lemma keepable_of_merged {singleValued : String → Bool}
    (hsetCookie : singleValued "set-cookie" = false) {name : String} {values : List Bytes}
    {text : String} {texts : List String} (htexts : Texts values (text :: texts))
    (hmerged : mergedValues singleValued name (values.filterMap utf8Decode) =
      some (exposedValues name (text :: texts))) : Keepable singleValued name values := by
  rcases htexts.joinedLength_le with ⟨hle, hwhole⟩
  have hcount := htexts.length_eq
  rcases hdecoded : values.filterMap utf8Decode with _ | ⟨decoded, rest⟩
  · rw [hdecoded] at hmerged
    exact absurd hmerged.symm (Option.some_ne_none _)
  · rw [hdecoded] at hle hwhole
    rw [hdecoded, mergedValues_eq, Option.some.injEq] at hmerged
    by_cases hset : name = "set-cookie"
    · subst hset
      rcases hwhole (congrArg joinedLength hmerged) with ⟨-, hall⟩
      refine ⟨hall, ?_⟩
      rintro (hcookie | hsingle)
      · exact absurd hcookie (by decide)
      · rw [hsetCookie] at hsingle
        exact absurd hsingle Bool.false_ne_true
    · rcases exposedValues_joined hset text texts with ⟨separator, hcookie, hexposed, hlength⟩
      rw [hexposed, if_neg hset] at hmerged
      by_cases hsingle : singleValued name = true
      · -- the first value alone is as long as all values joined
        rw [if_pos hsingle, List.singleton_inj] at hmerged
        rw [← hmerged] at hlength
        have hempty : rest = [] := eq_nil_of_joinedLength_le (hle.trans hlength.ge)
        have hsum := joinedLength_cons decoded rest
        rcases hwhole (by omega) with ⟨hsame, hall⟩
        refine ⟨hall, fun _ => ?_⟩
        rw [hcount, ← hsame, hempty]
        exact Nat.le_refl 1
      · rw [if_neg hsingle, List.singleton_inj] at hmerged
        have hcomma : (", ".intercalate (decoded :: rest)).length + 2 = _ :=
          length_intercalate rfl decoded rest
        rw [hmerged] at hcomma
        rcases hwhole (hcomma.symm.trans hlength) with ⟨hsame, hall⟩
        refine ⟨hall, ?_⟩
        rintro (hname | hname)
        · rw [hcookie hname, hsame] at hmerged
          rw [hcount, single_of_join_eq hmerged]
          exact Nat.le_refl 1
        · exact absurd hname hsingle

/-- Texts that can be kept are merged as they should be. -/
lemma merged_of_few {singleValued : String → Bool} {name text : String} {texts : List String}
    (hfew : name = "cookie" ∨ singleValued name = true → texts = []) :
    mergedValues singleValued name (text :: texts) = some (exposedValues name (text :: texts)) := by
  rw [mergedValues_eq, exposedValues]
  by_cases hset : name = "set-cookie"
  · rw [if_pos hset, if_pos hset]
  · rw [if_neg hset, if_neg hset]
    by_cases hone : name = "cookie" ∨ singleValued name = true
    · rw [hfew hone]
      simp
    · rw [not_or] at hone
      rw [if_neg hone.1, if_neg hone.2]

/-- **When the values of one name are kept.** -/
lemma keepable_iff {singleValued : String → Bool} (hsetCookie : singleValued "set-cookie" = false)
    (name : String) {values : List Bytes} (hvalues : values ≠ []) :
    (∃ texts, Texts values texts ∧
      mergedValues singleValued name (values.filterMap utf8Decode) =
        some (exposedValues name texts)) ↔ Keepable singleValued name values := by
  constructor
  · rintro ⟨texts, htexts, hmerged⟩
    rcases texts with _ | ⟨text, texts⟩
    · exact absurd (List.length_eq_zero_iff.1 htexts.length_eq) hvalues
    · exact keepable_of_merged hsetCookie htexts hmerged
  · rintro ⟨hutf8, hfew⟩
    refine ⟨_, texts_filterMap hutf8, ?_⟩
    have hcount := (texts_filterMap hutf8).length_eq
    rcases hdecoded : values.filterMap utf8Decode with _ | ⟨decoded, rest⟩
    · rw [hdecoded] at hcount
      exact absurd (List.length_eq_zero_iff.1 hcount) hvalues
    · refine merged_of_few fun hone => ?_
      have hlength := hfew hone
      rw [hdecoded, List.length_cons] at hcount
      exact List.length_eq_zero_iff.1 (by omega)

/-! ## All names of a request -/

/-- The name of a regular field of an accepted request, as a string. -/
lemma regular_name {fields : List (Bytes × Bytes)}
    (hnames : ∀ field ∈ fields, Nghttp2.AcceptedName field.1) {field : Bytes × Bytes}
    (hfield : field ∈ fields) (hregular : field.1.head? ≠ some (Nghttp2.ascii ':')) :
    ∃ name, field.1 = utf8Encode name ∧ name ∉ pseudoHeaders ∧
      ∀ b ∈ utf8Encode name, Nghttp2.validNameChar b := by
  have hchars : ∀ b ∈ field.1, Nghttp2.validNameChar b := by
    rcases hnames field hfield with hpseudo | ⟨-, hchars⟩
    · have hcolon : ∀ name ∈ Nghttp2.requestPseudoHeaders,
          name.head? = some (Nghttp2.ascii ':') := by decide
      exact absurd (hcolon _ hpseudo) hregular
    · exact hchars
  have hdecode := utf8Decode_of_ascii fun b hb =>
    Nghttp2.toNat_lt_of_validNameChar (hchars b hb)
  rw [utf8Decode_eq_some_iff] at hdecode
  refine ⟨_, hdecode, ?_, hdecode ▸ hchars⟩
  intro hpseudo
  have hcolon : ∀ name ∈ pseudoHeaders,
      (utf8Encode name).head? = some (Nghttp2.ascii ':') := by decide
  rw [hdecode] at hregular
  exact hregular (hcolon _ hpseudo)

/-- The names in the container of an accepted request are in lower case. -/
lemma lowercased_containerFields {lowercased : String → String} {singleValued : String → Bool}
    (hlaws : HeadersLaws P lowercased singleValued) {fields : List (Bytes × Bytes)}
    (hnames : ∀ field ∈ fields, Nghttp2.AcceptedName field.1) :
    ∀ entry ∈ containerFields fields, lowercased entry.1 = entry.1 := by
  intro entry hentry
  rcases List.mem_filter.1 hentry with ⟨hdecoded, hpseudo⟩
  rw [decide_eq_true_eq] at hpseudo
  rcases List.mem_filterMap.1 hdecoded with ⟨field, hfield, hdecode⟩
  have hname : field.1 = utf8Encode entry.1 := by
    simp only [decodeField] at hdecode
    split at hdecode
    · next name value hname hvalue =>
      cases hdecode
      exact utf8Decode_eq_some_iff.1 hname
    · cases hdecode
  refine hlaws.lowercased_token _ ?_
  rcases hnames field hfield with hmem | ⟨-, hchars⟩
  · refine absurd ?_ hpseudo
    have hall : ∀ name ∈ Nghttp2.requestPseudoHeaders,
        ∃ string ∈ pseudoHeaders, utf8Decode name = some string := by decide
    rcases hall _ hmem with ⟨string, hstring, hsame⟩
    rw [hname, utf8Decode_utf8Encode, Option.some.injEq] at hsame
    exact hsame ▸ hstring
  · exact hname ▸ hchars

/-- The values of a regular name in the container are those that are UTF-8. -/
lemma containerFields_values (fields : List (Bytes × Bytes)) {name : String}
    (hname : name ∉ pseudoHeaders) :
    ((containerFields fields).filter (·.1 = name)).map Prod.snd =
      (valuesOf fields (utf8Encode name)).filterMap utf8Decode := by
  induction fields with
  | nil => rfl
  | cons field fields ih =>
    rcases field with ⟨key, value⟩
    simp only [containerFields, valuesOf] at ih ⊢
    by_cases hkey : key = utf8Encode name
    · subst hkey
      rcases hvalue : utf8Decode value with _ | valueStr
      · have hdecode : decodeField (utf8Encode name, value) = none := by simp [decodeField, hvalue]
        rw [List.filterMap_cons_none hdecode, ih]
        simp [hvalue]
      · have hdecode : decodeField (utf8Encode name, value) = some (name, valueStr) := by
          simp [decodeField, hvalue]
        rw [List.filterMap_cons_some hdecode, List.filter_cons_of_pos (by simpa using hname),
          List.filter_cons_of_pos (by simp), List.map_cons, ih]
        simp [hvalue]
    · have hother : ∀ string, decodeField (key, value) = some string → string.1 ≠ name := by
        intro string hdecode hsame
        simp only [decodeField] at hdecode
        split at hdecode
        · next keyStr valueStr hkeyStr hvalueStr =>
          cases hdecode
          exact hkey (hsame ▸ utf8Decode_eq_some_iff.1 hkeyStr)
        · cases hdecode
      rw [List.filter_cons_of_neg (by simpa using hkey), ← ih]
      rcases hdecode : decodeField (key, value) with _ | string
      · rw [List.filterMap_cons_none hdecode]
      · rw [List.filterMap_cons_some hdecode, List.filter_cons]
        split_ifs
        · rw [List.filter_cons_of_neg (by simpa using hother string hdecode)]
        · rfl

section Request

variable {lowercased : String → String} {singleValued : String → Bool}

/-- What the container of a stream holds under a name: the values that are UTF-8, merged. -/
lemma lookup_collected (hlaws : HeadersLaws P lowercased singleValued)
    {fields : List (Bytes × Bytes)}
    (hnames : ∀ field ∈ fields, Nghttp2.AcceptedName field.1) {name : String}
    (hpseudo : name ∉ pseudoHeaders) (hchars : ∀ b ∈ utf8Encode name, Nghttp2.validNameChar b) :
    P.lookup (collected P fields) name =
      mergedValues singleValued name
        ((valuesOf fields (utf8Encode name)).filterMap utf8Decode) := by
  rw [collected, lookup_foldl_append hlaws _ _ (hlaws.lowercased_token _ hchars)
    (lowercased_containerFields hlaws hnames), containerFields_values fields hpseudo]

/-- When the copy of the container exposes all fields. -/
lemma exposes_iff (hlaws : HeadersLaws P lowercased singleValued) {fields : List (Bytes × Bytes)}
    (hnames : ∀ field ∈ fields, Nghttp2.AcceptedName field.1) :
    Exposes P fields (P.appendAll P.emptyHeaders (collected P fields)) ↔
      AllKeepable singleValued fields := by
  have hname : ∀ field ∈ fields, field.1.head? ≠ some (Nghttp2.ascii ':') → ∀ name,
      utf8Decode field.1 = some name → ((∃ texts, Texts (valuesOf fields field.1) texts ∧
        P.lookup (P.appendAll P.emptyHeaders (collected P fields)) name =
          some (exposedValues name texts)) ↔
        Keepable singleValued name (valuesOf fields field.1)) := by
    intro field hfield hregular name hdecode
    rcases regular_name hnames hfield hregular with ⟨name', hname', hpseudo, hchars⟩
    rw [hname', utf8Decode_utf8Encode, Option.some.injEq] at hdecode
    subst hdecode
    have hvalue : field.2 ∈ valuesOf fields field.1 :=
      List.mem_map_of_mem (List.mem_filter.2 ⟨hfield, decide_eq_true rfl⟩)
    rw [lookup_appendAll hlaws, lookup_collected hlaws hnames hpseudo hchars, ← hname']
    exact keepable_iff hlaws.not_single_setCookie _ (List.ne_nil_of_mem hvalue)
  constructor
  · intro hexposes field hfield hregular name hdecode
    rcases hexposes field hfield hregular with ⟨name', texts, hdecode', htexts, hlookup⟩
    rw [hdecode, Option.some.injEq] at hdecode'
    subst hdecode'
    exact (hname field hfield hregular name hdecode).1 ⟨texts, htexts, hlookup⟩
  · intro hkeepable field hfield hregular
    rcases regular_name hnames hfield hregular with ⟨name, hencoded, -, -⟩
    have hdecode : utf8Decode field.1 = some name := utf8Decode_eq_some_iff.2 hencoded
    rcases (hname field hfield hregular name hdecode).2
      (hkeepable field hfield hregular name hdecode) with ⟨texts, htexts, hlookup⟩
    exact ⟨name, texts, hdecode, htexts, hlookup⟩

variable {remoteAddress : Option String} {delegate upgraded : Bool} {events : List SessionEvent}
  {session : HTTP2Session P}

/-- **When the delegate sees all headers.**  Take any run of the callbacks, and a request that was
handed over for a stream whose fields are those that nghttp2 passed on of an accepted request.  The
headers of the request expose every regular field, with all values of its name, exactly when every
value of a regular field is UTF-8, and the names with a single value and `cookie` occur once. -/
theorem headers_complete_iff (hlaws : HeadersLaws P lowercased singleValued)
    (hadm : Admissible upgraded events)
    (hrun : run HTTP2Session.step (HTTP2Session.new P remoteAddress delegate) events = some session)
    (hanswers : Along HTTP2Session.step (AnswersHandled upgraded)
      (HTTP2Session.new P remoteAddress delegate) events) {s : StreamId} {call : HandleCall P}
    (hcall : call ∈ session.handledFor s) {sent : List (Bytes × Bytes)}
    (haccept : Nghttp2.acceptRequest sent = some (requestFields (streamEvents s events))) :
    Exposes P (requestFields (streamEvents s events)) call.request.headers ↔
      AllKeepable singleValued (requestFields (streamEvents s events)) := by
  rcases handled_built hadm hrun hanswers s call hcall with ⟨path, _, url, -, -, -, hrequest⟩
  have hheaders : call.request.headers =
      P.appendAll P.emptyHeaders (collected P (requestFields (streamEvents s events))) :=
    congrArg HTTP2ServerRequest.headers hrequest
  rw [hheaders]
  exact exposes_iff hlaws (Nghttp2.acceptRequest_names haccept)

end Request

/-! ## Requests with repeated names -/

/-- The fields of a request for `/`, and more. -/
def getWith (fields : List (String × String)) : List (Bytes × Bytes) :=
  getFields ++ fields.map fun field => (utf8Encode field.1, utf8Encode field.2)

/-- The callbacks for such a request. -/
def requestWith (fields : List (String × String)) : List SessionEvent :=
  fieldEvents requestFrame (getWith fields) ++ [.frameRecv requestFrame "today"]

/-- Two values of a name that are joined. -/
def acceptTwice : List (String × String) := [("accept", "text/html"), ("accept", "text/plain")]

theorem headers_complete_accept : ∃ session : HTTP2Session Platform.kitura,
    run HTTP2Session.step (HTTP2Session.new Platform.kitura none true) (requestWith acceptTwice) =
      some session ∧ session.handledFor 1 ≠ [] ∧ ∀ call ∈ session.handledFor 1,
        Exposes Platform.kitura (getWith acceptTwice) call.request.headers := by
  have hadm : Admissible false (requestWith acceptTwice) := by decide
  have hcount : (run HTTP2Session.step (HTTP2Session.new Platform.kitura none true)
      (requestWith acceptTwice)).map (fun session => (session.handledFor 1).length) = some 1 := by
    decide
  have hfields : requestFields (streamEvents 1 (requestWith acceptTwice)) =
      getWith acceptTwice := by decide
  have haccept : Nghttp2.acceptRequest (getWith acceptTwice) =
      some (requestFields (streamEvents 1 (requestWith acceptTwice))) := by decide
  have hkeepable : AllKeepable HeadersTable.singleValued (getWith acceptTwice) := by decide
  rcases Option.map_eq_some_iff.1 hcount with ⟨session, hrun, hlength⟩
  refine ⟨session, hrun, ?_, ?_⟩
  · intro hnone
    rw [hnone] at hlength
    exact absurd hlength (by decide)
  · intro call hcall
    have hiff := headers_complete_iff headersLaws_kitura hadm hrun
      (answersHandled_request _ _ _) hcall haccept
    rw [hfields] at hiff
    exact hiff.2 hkeepable

/-- A cookie in two fields, as browsers send it, and a value in Latin-1. -/
def cookieFields : List (Bytes × Bytes) :=
  getWith [("cookie", "a=1"), ("cookie", "b=2")] ++ [(utf8Encode "x-name", [0x52, 0xe9])]

/-- **Two cookies become one, and a name is lost.**  nghttp2 accepts the request; the delegate sees
a cookie whose value is `1, b=2`, and no `x-name`. -/
theorem split_cookie_is_joined_with_a_comma :
    Nghttp2.acceptRequest cookieFields = some cookieFields ∧
    ∃ session : HTTP2Session Platform.kitura,
      run HTTP2Session.step (HTTP2Session.new Platform.kitura none true)
        (fieldEvents requestFrame cookieFields ++ [.frameRecv requestFrame "today"]) =
          some session ∧
      (session.handledFor 1).map (fun call =>
        (Platform.kitura.lookup call.request.headers "cookie",
          Platform.kitura.lookup call.request.headers "x-name")) =
        [(some ["a=1, b=2"], none)] ∧
      ∀ call ∈ session.handledFor 1,
        ¬ Exposes Platform.kitura cookieFields call.request.headers := by
  have hlookups : (run HTTP2Session.step (HTTP2Session.new Platform.kitura none true)
      (fieldEvents requestFrame cookieFields ++ [.frameRecv requestFrame "today"])).map
        (fun session => (session.handledFor 1).map fun call =>
          (Platform.kitura.lookup call.request.headers "cookie",
            Platform.kitura.lookup call.request.headers "x-name")) =
      some [(some ["a=1, b=2"], none)] := by decide
  rcases Option.map_eq_some_iff.1 hlookups with ⟨session, hrun, hlookup⟩
  refine ⟨by decide, session, hrun, hlookup, ?_⟩
  intro call hcall hexposes
  have hmem := List.mem_map_of_mem (f := fun call =>
    (Platform.kitura.lookup call.request.headers "cookie",
      Platform.kitura.lookup call.request.headers "x-name")) hcall
  rw [hlookup, List.mem_singleton, Prod.mk.injEq] at hmem
  rcases hexposes (utf8Encode "cookie", utf8Encode "a=1") (by decide) (by decide) with
    ⟨name, texts, hname, htexts, hfound⟩
  rw [utf8Decode_utf8Encode, Option.some.injEq] at hname
  subst hname
  have hvalues : valuesOf cookieFields (utf8Encode "cookie") =
      [utf8Encode "a=1", utf8Encode "b=2"] := by decide
  have htexts' : texts = ["a=1", "b=2"] := by
    rw [hvalues] at htexts
    rcases htexts with _ | ⟨hfirst, _ | ⟨hsecond, _ | _⟩⟩
    rw [hfirst _ (utf8Decode_utf8Encode _), hsecond _ (utf8Decode_utf8Encode _)]
  rw [hmem.1, htexts'] at hfound
  exact absurd hfound (by decide)

end KituraHTTP2
