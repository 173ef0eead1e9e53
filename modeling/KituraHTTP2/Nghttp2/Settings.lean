import Mathlib.Data.List.Induction
import KituraHTTP2.Lib.LastWins
import KituraHTTP2.Nghttp2.Session
import KituraHTTP2.Nghttp2.Hd.Length

/-!
# A SETTINGS frame as it arrives

The entries of a SETTINGS frame arrive one after the other.  The session keeps them in an array that
it has made for them: of the settings that it knows it keeps one entry each, with the value that
came last, so that a frame that repeats a setting has no more effect than its last word.  The size
of the header table is the exception, because the smallest value counts too: the encoder has to
forget what did not fit then.  The last place of the array holds it, and when the frame is complete
it is put before the last value.

**The array** has a place for each entry of the frame and one more, for the smallest size.  Its
memory is not cleared, and only the places below the count are read, and the last one.  A write
beyond its end would be a heap overflow that a peer can cause with a frame, so the model has it as
an error of its own (`setSettingsEntry`), and `junk` is what the memory holds.

**Two ways in.**  The settings of an upgrade request come in a header field, not in a frame, and are
read by another function, which takes all entries as they are.  What the session makes of both is
the same (`unpackSettings_payload`), although the entries that it is given are not.

* **`exists_unpackSettings`** — no entry is written beyond the end of the array.
* **`tableSizes_ordered`** — what remains of the sizes of the header table: the smallest and the
  last one.
* **`remoteSettings_ordered`** — for the other settings the entries that remain mean the same as all
  entries do, one after the other.
* **`unpackSettings_payload`** — a frame and the payload of an upgrade request mean the same.
-/

namespace KituraHTTP2.Nghttp2

open LastWins

/-! ## The array of the entries -/

/-- `NGHTTP2_SETTINGS_HEADER_TABLE_SIZE` -/
def settingsHeaderTableSize : ℕ := 1

/-- The settings that `inbound_frame_set_settings_entry` knows. -/
def knownSettings : List ℕ := [1, 2, 3, 4, 5, 6]

/-- The part of `nghttp2_inbound_frame` that holds the entries of SETTINGS: `iv`, an array of
`max_niv` entries, of which the first `niv` are in use. -/
structure InboundSettings where
  iv : List SettingsEntry
  niv : ℕ
deriving DecidableEq, Repr

namespace InboundSettings

/-- The array for a frame with `n` entries: one more, for the smallest size of the header table.
The others hold what they hold. -/
def alloc (junk : ℕ → SettingsEntry) (n : ℕ) : InboundSettings where
  iv := (List.range n).map junk ++ [⟨settingsHeaderTableSize, uint32Max⟩]
  niv := 0

/-- The entries in use. -/
def entries (inbound : InboundSettings) : List SettingsEntry := inbound.iv.take inbound.niv

/-- `iv[niv++] = entry`; `none` is a write beyond the end of the array. -/
def push (inbound : InboundSettings) (entry : SettingsEntry) : Option InboundSettings :=
  if inbound.niv < inbound.iv.length then
    some ⟨inbound.iv.set inbound.niv entry, inbound.niv + 1⟩
  else none

/-- The entry at the last place, with the smallest size of the header table. -/
def minEntry (inbound : InboundSettings) : SettingsEntry :=
  inbound.iv.getD (inbound.iv.length - 1) ⟨settingsHeaderTableSize, uint32Max⟩

/-- The smallest size of the header table is `value`, if that is smaller. -/
def noteMin (inbound : InboundSettings) (value : ℕ) : InboundSettings :=
  if value < inbound.minEntry.value then
    { inbound with
      iv := inbound.iv.set (inbound.iv.length - 1) { inbound.minEntry with value := value } }
  else inbound

/-- The first entry of a setting. -/
def find (inbound : InboundSettings) (settingsId : ℕ) : Option ℕ :=
  inbound.entries.findIdx? fun entry => entry.settingsId = settingsId

/-- `inbound_frame_set_settings_entry`, for an entry that was unpacked. -/
def setSettingsEntry (inbound : InboundSettings) (entry : SettingsEntry) :
    Option InboundSettings :=
  if entry.settingsId ∈ knownSettings then
    let next :=
      match inbound.find entry.settingsId with
      | some i => some { inbound with iv := inbound.iv.set i entry }
      | none => inbound.push entry
    if entry.settingsId = settingsHeaderTableSize then
      next.map fun inbound => inbound.noteMin entry.value
    else next
  else inbound.push entry

/-- What `session_process_settings_frame` does to the entries. -/
def processSettings (inbound : InboundSettings) : Option (List SettingsEntry) :=
  let minEntry := inbound.minEntry
  if minEntry.value < uint32Max then
    match inbound.find settingsHeaderTableSize with
    | none => none
    | some i =>
      match inbound.entries[i]? with
      | none => none
      | some entry =>
        if minEntry.value ≠ entry.value then
          (inbound.push entry).map fun inbound =>
            { inbound with iv := inbound.iv.set i minEntry }.entries
        else some inbound.entries
  else some inbound.entries

end InboundSettings

/-- The entries of a SETTINGS frame with the entries `iv`, when it is complete.  Without entries
there is no array. -/
def unpackSettings (junk : ℕ → SettingsEntry) (iv : List SettingsEntry) :
    Option (List SettingsEntry) :=
  if iv = [] then some []
  else (iv.foldlM InboundSettings.setSettingsEntry (.alloc junk iv.length)).bind
    InboundSettings.processSettings

/-! ## What the array holds -/

/-- The values of the size of the header table. -/
def tableSizes (iv : List SettingsEntry) : List ℕ :=
  (entriesOf SettingsEntry.settingsId settingsHeaderTableSize iv).map SettingsEntry.value

/-- The smallest of the sizes. -/
def smallest (sizes : List ℕ) : ℕ := sizes.foldl min uint32Max

lemma smallest_concat (sizes : List ℕ) (size : ℕ) :
    smallest (sizes ++ [size]) = min (smallest sizes) size := by
  rw [smallest, List.foldl_append]
  rfl

/-- An entry that comes after the others: of a setting that is known only one remains. -/
def mergeEntry (iv : List SettingsEntry) (entry : SettingsEntry) : List SettingsEntry :=
  if entry.settingsId ∈ knownSettings then put SettingsEntry.settingsId iv entry
  else iv ++ [entry]

/-- The entries that remain. -/
def merged (iv : List SettingsEntry) : List SettingsEntry := iv.foldl mergeEntry []

lemma merged_concat (iv : List SettingsEntry) (entry : SettingsEntry) :
    merged (iv ++ [entry]) = mergeEntry (merged iv) entry := by
  rw [merged, List.foldl_append]
  rfl

/-- The last entry of a known setting remains, and no other one. -/
lemma entriesOf_merged {settingsId : ℕ} (h : settingsId ∈ knownSettings)
    (iv : List SettingsEntry) :
    entriesOf SettingsEntry.settingsId settingsId (merged iv) =
      (entriesOf SettingsEntry.settingsId settingsId iv).getLast?.toList := by
  induction iv using List.reverseRecOn with
  | nil => rfl
  | append_singleton iv entry ih =>
    rw [merged_concat, mergeEntry, entriesOf_append, entriesOf_cons]
    by_cases hentry : entry.settingsId = settingsId
    · subst hentry
      have hsingle : Single SettingsEntry.settingsId entry.settingsId (merged iv) := by
        rw [Single, ih]
        cases (entriesOf SettingsEntry.settingsId entry.settingsId iv).getLast? <;> simp
      rw [if_pos h, entriesOf_put_same hsingle, if_pos rfl, List.getLast?_append_of_ne_nil _ (by simp)]
      rfl
    · rw [if_neg hentry]
      have hnone : entriesOf SettingsEntry.settingsId settingsId ([] : List SettingsEntry) = [] :=
        rfl
      rw [hnone, List.append_nil, ← ih]
      split
      · exact entriesOf_put_other hentry
      · rw [entriesOf_append, entriesOf_cons, if_neg hentry, hnone, List.append_nil]

lemma single_merged {settingsId : ℕ} (h : settingsId ∈ knownSettings) (iv : List SettingsEntry) :
    Single SettingsEntry.settingsId settingsId (merged iv) := by
  rw [Single, entriesOf_merged h]
  cases (entriesOf SettingsEntry.settingsId settingsId iv).getLast? <;> simp

lemma single_tableSize (iv : List SettingsEntry) :
    Single SettingsEntry.settingsId settingsHeaderTableSize (merged iv) :=
  single_merged (by decide) iv

lemma length_merged_le (iv : List SettingsEntry) : (merged iv).length ≤ iv.length := by
  induction iv using List.reverseRecOn with
  | nil => exact Nat.le_refl 0
  | append_singleton iv entry ih =>
    rw [merged_concat, mergeEntry, List.length_append, List.length_singleton]
    split
    · have hput : (put SettingsEntry.settingsId (merged iv) entry).length ≤ (merged iv).length + 1 :=
        length_put_le _ _
      omega
    · rw [List.length_append, List.length_singleton]
      omega

/-- The array in which the entries `iv` have arrived, of `n` entries. -/
structure Arrived (n : ℕ) (iv : List SettingsEntry) (inbound : InboundSettings) : Prop where
  length : inbound.iv.length = n + 1
  niv : inbound.niv = (merged iv).length
  entries : inbound.entries = merged iv
  minEntry : inbound.minEntry = ⟨settingsHeaderTableSize, smallest (tableSizes iv)⟩

lemma arrived_alloc (junk : ℕ → SettingsEntry) (n : ℕ) : Arrived n [] (.alloc junk n) where
  length := by simp [InboundSettings.alloc]
  niv := rfl
  entries := rfl
  minEntry := by
    simp [InboundSettings.minEntry, InboundSettings.alloc, List.getD_eq_getElem?_getD, tableSizes,
      smallest, entriesOf]

lemma tableSizes_concat (iv : List SettingsEntry) (entry : SettingsEntry) :
    tableSizes (iv ++ [entry]) =
      if entry.settingsId = settingsHeaderTableSize then tableSizes iv ++ [entry.value]
      else tableSizes iv := by
  rw [tableSizes, entriesOf_append, entriesOf_cons, List.map_append]
  split <;> simp [tableSizes, entriesOf]

namespace InboundSettings

/-- An entry is written to a place below the last one. -/
lemma minEntry_set {inbound : InboundSettings} {i : ℕ} (h : i + 1 < inbound.iv.length)
    (entry : SettingsEntry) (niv : ℕ) :
    minEntry ⟨inbound.iv.set i entry, niv⟩ = inbound.minEntry := by
  simp only [minEntry, List.length_set, List.getD_eq_getElem?_getD]
  rw [List.getElem?_set_ne (by omega)]

end InboundSettings

variable {n : ℕ} {iv : List SettingsEntry} {inbound : InboundSettings}

/-- The entry is put where it belongs; the smallest size is not noted yet. -/
lemma Arrived.put (h : Arrived n iv inbound) (hn : iv.length < n) (entry : SettingsEntry) :
    ∃ inbound', (if entry.settingsId ∈ knownSettings then
        match inbound.find entry.settingsId with
        | some i => some { inbound with iv := inbound.iv.set i entry }
        | none => inbound.push entry
      else inbound.push entry) = some inbound' ∧
      inbound'.iv.length = n + 1 ∧ inbound'.niv = (mergeEntry (merged iv) entry).length ∧
      inbound'.entries = mergeEntry (merged iv) entry ∧
      inbound'.minEntry = inbound.minEntry := by
  have hlength := h.length
  have hniv := h.niv
  have hle := length_merged_le iv
  have hpush : ∃ inbound', inbound.push entry = some inbound' ∧ inbound'.iv.length = n + 1 ∧
      inbound'.niv = (merged iv ++ [entry]).length ∧ inbound'.entries = merged iv ++ [entry] ∧
      inbound'.minEntry = inbound.minEntry := by
    refine ⟨_, if_pos (by omega), by simpa using hlength, ?_, ?_, ?_⟩
    · rw [List.length_append, ← hniv]
      rfl
    · have hentries := h.entries
      simp only [InboundSettings.entries] at hentries ⊢
      rw [List.take_add_one, List.take_set_of_le (Nat.le_refl _), hentries,
        List.getElem?_set_self (by omega)]
      rfl
    · exact InboundSettings.minEntry_set (by omega) entry _
  rw [mergeEntry]
  split
  · unfold LastWins.put
    rw [InboundSettings.find, h.entries]
    cases hfind : (merged iv).findIdx? fun other => other.settingsId = entry.settingsId with
    | some i =>
      have hi : i < (merged iv).length := (List.findIdx?_eq_some_iff_findIdx_eq.1 hfind).1
      simp only
      refine ⟨_, rfl, by simpa using hlength, ?_, ?_,
        InboundSettings.minEntry_set (by omega) entry _⟩
      · rw [List.length_set]
        exact hniv
      · rw [← h.entries]
        exact List.take_set
    | none =>
      simp only
      exact hpush
  · exact hpush

/-- **An entry arrives.** -/
lemma Arrived.set (h : Arrived n iv inbound) (hn : iv.length < n) (entry : SettingsEntry) :
    ∃ inbound', inbound.setSettingsEntry entry = some inbound' ∧
      Arrived n (iv ++ [entry]) inbound' := by
  obtain ⟨inbound', hput, hlength, hniv, hentries, hmin⟩ := h.put hn entry
  have hle := length_merged_le (iv ++ [entry])
  rw [merged_concat, List.length_append, List.length_singleton] at hle
  rw [InboundSettings.setSettingsEntry]
  by_cases hsize : entry.settingsId = settingsHeaderTableSize
  · have hknown : entry.settingsId ∈ knownSettings := by
      rw [hsize]
      decide
    rw [if_pos hknown] at hput ⊢
    simp only [hsize, if_true] at hput ⊢
    rw [hput]
    refine ⟨inbound'.noteMin entry.value, rfl, ?_⟩
    have hsmallest : smallest (tableSizes (iv ++ [entry])) =
        min (smallest (tableSizes iv)) entry.value := by
      rw [tableSizes_concat, if_pos hsize, smallest_concat]
    have hvalue : inbound'.minEntry.value = smallest (tableSizes iv) := by
      rw [hmin, h.minEntry]
    rw [InboundSettings.noteMin]
    split
    · rename_i hless
      refine ⟨by simpa using hlength, by rw [hniv, merged_concat], ?_, ?_⟩
      · rw [merged_concat, ← hentries]
        refine List.take_set_of_le ?_
        simp only [hniv, hlength]
        omega
      · rw [hsmallest, Nat.min_eq_right (by omega)]
        simp only [InboundSettings.minEntry, List.length_set, List.getD_eq_getElem?_getD]
        rw [List.getElem?_set_self (by omega), Option.getD_some]
        simp only [InboundSettings.minEntry, List.getD_eq_getElem?_getD] at hmin
        have hminEntry := h.minEntry
        simp only [InboundSettings.minEntry, List.getD_eq_getElem?_getD] at hminEntry
        rw [hmin, hminEntry]
    · rename_i hge
      refine ⟨hlength, by rw [hniv, merged_concat], by rw [hentries, merged_concat], ?_⟩
      rw [hmin, h.minEntry, hsmallest, Nat.min_eq_left (by omega)]
  · have hsame : inbound'.minEntry =
        ⟨settingsHeaderTableSize, smallest (tableSizes (iv ++ [entry]))⟩ := by
      rw [hmin, h.minEntry, tableSizes_concat, if_neg hsize]
    refine ⟨inbound', ?_, hlength, by rw [hniv, merged_concat], by rw [hentries, merged_concat],
      hsame⟩
    simpa only [hsize, if_false] using hput

/-- The entries arrive one after the other. -/
lemma exists_arrived (junk : ℕ → SettingsEntry) (iv : List SettingsEntry) {n : ℕ}
    (hn : iv.length ≤ n) :
    ∃ inbound, iv.foldlM InboundSettings.setSettingsEntry (.alloc junk n) = some inbound ∧
      Arrived n iv inbound := by
  induction iv using List.reverseRecOn with
  | nil => exact ⟨_, rfl, arrived_alloc junk n⟩
  | append_singleton iv entry ih =>
    rw [List.length_append, List.length_singleton] at hn
    obtain ⟨inbound, hfold, harrived⟩ := ih (by omega)
    obtain ⟨inbound', hset, harrived'⟩ := harrived.set (by omega) entry
    refine ⟨inbound', ?_, harrived'⟩
    simp [List.foldlM_append, hfold, hset]

/-! ## The entries of a frame -/

/-- The entries that a frame with the entries `iv` comes to: the merged ones, where the smallest
size of the header table comes before the last one if it is another one. -/
inductive Ordered (iv : List SettingsEntry) : List SettingsEntry → Prop
  | same (h : ∀ last ∈ (tableSizes iv).getLast?, smallest (tableSizes iv) = last) :
    Ordered iv (merged iv)
  | split {front back : List SettingsEntry} {entry : SettingsEntry}
    (hmerged : merged iv = front ++ entry :: back)
    (hentry : entry.settingsId = settingsHeaderTableSize)
    (hne : smallest (tableSizes iv) ≠ entry.value) :
    Ordered iv (front ++ ⟨settingsHeaderTableSize, smallest (tableSizes iv)⟩ :: back ++ [entry])

lemma smallest_le {sizes : List ℕ} {size : ℕ} (h : size ∈ sizes) : smallest sizes ≤ size := by
  induction sizes using List.reverseRecOn with
  | nil => cases h
  | append_singleton sizes last ih =>
    rw [smallest_concat]
    rcases List.mem_append.1 h with hmem | hmem
    · exact Nat.le_trans (Nat.min_le_left _ _) (ih hmem)
    · rw [List.mem_singleton.1 hmem]
      exact Nat.min_le_right _ _

lemma smallest_lt (sizes : List ℕ) : smallest sizes < 2 ^ 32 := by
  induction sizes using List.reverseRecOn with
  | nil => exact uint32Max_lt
  | append_singleton sizes size ih =>
    rw [smallest_concat]
    omega

/-- The sizes that remain of the merged entries. -/
lemma tableSizes_merged (iv : List SettingsEntry) :
    tableSizes (merged iv) = (tableSizes iv).getLast?.toList := by
  rw [tableSizes, entriesOf_merged (by decide), tableSizes, List.getLast?_map]
  cases (entriesOf SettingsEntry.settingsId settingsHeaderTableSize iv).getLast? <;> rfl

/-- The size in the merged entries is the last one. -/
lemma getLast?_of_merged {front back : List SettingsEntry} {entry : SettingsEntry}
    (hmerged : merged iv = front ++ entry :: back)
    (hentry : entry.settingsId = settingsHeaderTableSize) :
    (tableSizes iv).getLast? = some entry.value := by
  have hsingle := single_tableSize iv
  rw [hmerged] at hsingle
  obtain ⟨hfront, hback⟩ := hsingle.around hentry
  have hsizes := tableSizes_merged iv
  rw [hmerged, tableSizes, entriesOf_append, entriesOf_cons, if_pos hentry, hfront, hback] at hsizes
  cases hlast : (tableSizes iv).getLast? with
  | none =>
    rw [hlast] at hsizes
    cases hsizes
  | some last =>
    rw [hlast] at hsizes
    cases hsizes
    rfl

/-- The frame is complete. -/
lemma Arrived.processSettings (h : Arrived n iv inbound) (hn : iv.length ≤ n)
    (hiv : ∀ entry ∈ iv, entry.value < 2 ^ 32) :
    ∃ iv', inbound.processSettings = some iv' ∧ Ordered iv iv' := by
  have hlength := h.length
  have hniv := h.niv
  have hle := length_merged_le iv
  have hvalues : ∀ size ∈ tableSizes iv, size < 2 ^ 32 := by
    intro size hsize
    obtain ⟨entry, hentry, rfl⟩ := List.mem_map.1 hsize
    exact hiv entry (List.mem_of_mem_filter hentry)
  rw [InboundSettings.processSettings]
  simp only [h.minEntry, h.entries, InboundSettings.find]
  split
  · rename_i hless
    cases hfind : (merged iv).findIdx? fun entry => entry.settingsId = settingsHeaderTableSize with
    | none =>
      have hnone : entriesOf SettingsEntry.settingsId settingsHeaderTableSize (merged iv) = [] := by
        rw [entriesOf_eq_nil]
        simpa [List.findIdx?_eq_none_iff] using hfind
      have hsizes := tableSizes_merged iv
      rw [tableSizes, hnone] at hsizes
      have hempty : tableSizes iv = [] := by
        cases hlast : (tableSizes iv).getLast? with
        | none => exact List.getLast?_eq_none_iff.1 hlast
        | some last =>
          rw [hlast] at hsizes
          cases hsizes
      rw [hempty] at hless
      exact absurd hless (Nat.lt_irrefl _)
    | some i =>
      obtain ⟨front, entry, back, hmerged, hentry, hget, hset⟩ := exists_of_findIdx? hfind
      have hi : i < (merged iv).length := (List.getElem?_eq_some_iff.1 hget).1
      simp only [hget]
      split
      · rename_i hne
        rw [InboundSettings.push, if_pos (by omega), Option.map_some]
        refine ⟨_, rfl, ?_⟩
        have hentries : InboundSettings.entries ⟨(inbound.iv.set inbound.niv entry).set i
            ⟨settingsHeaderTableSize, smallest (tableSizes iv)⟩, inbound.niv + 1⟩ =
            front ++ ⟨settingsHeaderTableSize, smallest (tableSizes iv)⟩ :: back ++ [entry] := by
          have hentries := h.entries
          simp only [InboundSettings.entries] at hentries ⊢
          rw [List.take_set, List.take_add_one, List.take_set_of_le (Nat.le_refl _), hentries,
            List.getElem?_set_self (by omega), Option.toList_some,
            List.set_append_left _ _ (by omega), hset]
        rw [hentries]
        exact .split hmerged hentry hne
      · rename_i heq
        refine ⟨_, rfl, .same fun last hlast => ?_⟩
        have hlast' := getLast?_of_merged hmerged hentry
        rw [hlast'] at hlast
        cases hlast
        simpa using heq
  · rename_i hge
    refine ⟨_, rfl, .same fun last hlast => ?_⟩
    have hmem := List.mem_of_getLast? hlast
    have hsmall := smallest_le hmem
    have hlt := hvalues last hmem
    rw [uint32Max] at hge
    omega

/-- **The entries of a frame**, which always fit into the array. -/
theorem exists_unpackSettings (junk : ℕ → SettingsEntry)
    (hiv : ∀ entry ∈ iv, entry.value < 2 ^ 32) :
    ∃ iv', unpackSettings junk iv = some iv' ∧ Ordered iv iv' := by
  rw [unpackSettings]
  split
  · rename_i hempty
    subst hempty
    exact ⟨[], rfl, .same fun _ h => nomatch h⟩
  · obtain ⟨inbound, hfold, harrived⟩ := exists_arrived junk iv (Nat.le_refl _)
    rw [hfold, Option.bind_some]
    exact harrived.processSettings (Nat.le_refl _) hiv

/-! ## What they mean -/

/-- The smallest and the last one of the sizes. -/
def smallestAndLast (sizes : List ℕ) : List ℕ :=
  match sizes.getLast? with
  | none => []
  | some last => if smallest sizes = last then [last] else [smallest sizes, last]

/-- **Of the sizes of the header table the smallest and the last one remain.** -/
theorem tableSizes_ordered {iv' : List SettingsEntry} (h : Ordered iv iv') :
    tableSizes iv' = smallestAndLast (tableSizes iv) := by
  rw [smallestAndLast]
  cases h with
  | same h =>
    rw [tableSizes_merged]
    cases hlast : (tableSizes iv).getLast? with
    | none => rfl
    | some last =>
      simp only [h last hlast, if_true]
      rfl
  | split hmerged hentry hne =>
    have hsingle := single_tableSize iv
    rw [hmerged] at hsingle
    obtain ⟨hfront, hback⟩ := hsingle.around hentry
    rw [getLast?_of_merged hmerged hentry, tableSizes, entriesOf_append, entriesOf_append,
      entriesOf_cons, if_pos rfl, hfront, hback, entriesOf_cons, if_pos hentry]
    simp only [hne, if_false]
    rfl

lemma smallest_smallestAndLast (sizes : List ℕ) :
    smallest (smallestAndLast sizes) = smallest sizes := by
  have hlt := smallest_lt sizes
  rw [smallestAndLast]
  cases hlast : sizes.getLast? with
  | none => rw [List.getLast?_eq_none_iff.1 hlast]
  | some last =>
    have hle := smallest_le (List.mem_of_getLast? hlast)
    simp only
    split
    · simp only [smallest, List.foldl_cons, List.foldl_nil, uint32Max] at *
      omega
    · simp only [smallest, List.foldl_cons, List.foldl_nil, uint32Max] at *
      omega

lemma getLast?_smallestAndLast (sizes : List ℕ) :
    (smallestAndLast sizes).getLast? = sizes.getLast? := by
  rw [smallestAndLast]
  cases sizes.getLast? with
  | none => rfl
  | some last =>
    simp only
    split <;> rfl

lemma mem_smallestAndLast_lt {sizes : List ℕ} (h : ∀ size ∈ sizes, size < 2 ^ 32) :
    ∀ size ∈ smallestAndLast sizes, size < 2 ^ 32 := by
  intro size hsize
  have hlt := smallest_lt sizes
  rw [smallestAndLast] at hsize
  cases hlast : sizes.getLast? with
  | none =>
    rw [hlast] at hsize
    cases hsize
  | some last =>
    have hlast' := h last (List.mem_of_getLast? hlast)
    rw [hlast] at hsize
    simp only at hsize
    split at hsize
    · rw [List.mem_singleton.1 hsize]
      exact hlast'
    · simp only [List.mem_cons, List.not_mem_nil, or_false] at hsize
      rcases hsize with rfl | rfl
      · exact hlt
      · exact hlast'

/-- The entries that `nghttp2_iv_check` allows. -/
def ivCheck (iv : List SettingsEntry) : Bool :=
  iv.all fun entry =>
    match entry.settingsId with
    | 2 => entry.value = 0 ∨ entry.value = 1
    | 4 => entry.value ≤ maxWindowSize
    | 5 => maxFrameSizeMin ≤ entry.value ∧ entry.value ≤ maxFrameSizeMax
    | _ => true

/-- What an allowed entry does to the settings of the peer. -/
def RemoteSettings.apply (settings : RemoteSettings) (entry : SettingsEntry) : RemoteSettings :=
  match entry.settingsId with
  | 1 => { settings with headerTableSize := entry.value }
  | 2 => { settings with enablePush := entry.value }
  | 3 => { settings with maxConcurrentStreams := entry.value }
  | 4 => { settings with initialWindowSize := entry.value }
  | 5 => { settings with
      maxFrameSize := max maxFrameSizeMin entry.value
      maxFrameSize_ge := le_max_left _ _ }
  | 6 => { settings with maxHeaderListSize := entry.value }
  | _ => settings

lemma apply_over (settings : RemoteSettings) (entry entry' : SettingsEntry)
    (h : entry.settingsId = entry'.settingsId) :
    (settings.apply entry).apply entry' = settings.apply entry' := by
  obtain ⟨settingsId, value⟩ := entry
  obtain ⟨settingsId', value'⟩ := entry'
  cases h
  rcases settingsId with _ | _ | _ | _ | _ | _ | _ | settingsId <;> rfl

lemma apply_comm (settings : RemoteSettings) (entry entry' : SettingsEntry)
    (h : entry.settingsId ≠ entry'.settingsId) :
    (settings.apply entry).apply entry' = (settings.apply entry').apply entry := by
  obtain ⟨settingsId, value⟩ := entry
  obtain ⟨settingsId', value'⟩ := entry'
  rcases settingsId with _ | _ | _ | _ | _ | _ | _ | settingsId <;>
    rcases settingsId' with _ | _ | _ | _ | _ | _ | _ | settingsId' <;>
    first | rfl | exact absurd rfl h

variable {σ : Type}

/-- An allowed entry comes into effect. -/
lemma remoteSettings_onSettingsEntry (session : Session σ) {entry : SettingsEntry}
    (h : ivCheck [entry] = true) :
    ∃ session', session.onSettingsEntry entry = some session' ∧
      session'.remoteSettings = session.remoteSettings.apply entry := by
  obtain ⟨settingsId, value⟩ := entry
  simp only [ivCheck, List.all_cons, List.all_nil, Bool.and_true] at h
  rcases settingsId with _ | _ | _ | _ | _ | _ | _ | settingsId
  case succ.succ.zero =>
    have hvalue : ¬ (value ≠ 0 ∧ value ≠ 1) := by
      have hor := of_decide_eq_true h
      omega
    exact ⟨_, if_neg hvalue, rfl⟩
  case succ.succ.succ.succ.zero =>
    exact ⟨_, if_neg (not_lt.2 (of_decide_eq_true h)), rfl⟩
  case succ.succ.succ.succ.succ.zero =>
    have hvalue := of_decide_eq_true h
    have hrange : ¬ (value < maxFrameSizeMin ∨ maxFrameSizeMax < value) := by omega
    refine ⟨_, dif_neg hrange, ?_⟩
    simp only [RemoteSettings.apply, RemoteSettings.mk.injEq, true_and, and_true]
    omega
  all_goals exact ⟨_, rfl, rfl⟩

/-- Allowed entries come into effect one after the other. -/
lemma remoteSettings_onSettingsReceived (session : Session σ) (h : ivCheck iv = true) :
    (session.onSettingsReceived iv).remoteSettings =
      iv.foldl RemoteSettings.apply session.remoteSettings := by
  induction iv generalizing session with
  | nil => rfl
  | cons entry iv ih =>
    have hsplit : ivCheck [entry] = true ∧ ivCheck iv = true := by
      simpa [ivCheck] using h
    obtain ⟨session', hsession', hsettings⟩ := remoteSettings_onSettingsEntry session hsplit.1
    rw [Session.onSettingsReceived, hsession', List.foldl_cons, ← hsettings]
    exact ih session' hsplit.2

lemma mem_of_mem_merged {entry : SettingsEntry} (h : entry ∈ merged iv) : entry ∈ iv := by
  induction iv using List.reverseRecOn with
  | nil => exact h
  | append_singleton iv last ih =>
    rw [merged_concat, mergeEntry] at h
    rw [List.mem_append, List.mem_singleton]
    split at h
    · rcases mem_of_mem_put h with rfl | hmem
      · exact Or.inr rfl
      · exact Or.inl (ih hmem)
    · rw [List.mem_append, List.mem_singleton] at h
      exact h.imp_left ih

/-- The merged entries mean the same. -/
lemma foldl_merged (iv : List SettingsEntry) (settings : RemoteSettings) :
    (merged iv).foldl RemoteSettings.apply settings = iv.foldl RemoteSettings.apply settings := by
  induction iv using List.reverseRecOn with
  | nil => rfl
  | append_singleton iv entry ih =>
    rw [merged_concat, mergeEntry, List.foldl_append, List.foldl_cons, List.foldl_nil, ← ih]
    split
    · rename_i hknown
      exact foldl_put apply_over apply_comm (single_merged hknown iv) settings
    · rw [List.foldl_append, List.foldl_cons, List.foldl_nil]

lemma foldl_ordered {iv' : List SettingsEntry} (h : Ordered iv iv') (settings : RemoteSettings) :
    iv'.foldl RemoteSettings.apply settings = iv.foldl RemoteSettings.apply settings := by
  rw [← foldl_merged iv]
  cases h with
  | same h => rfl
  | @split front back entry hmerged hentry hne =>
    -- the entry at the end would take the place of the smallest size
    have hsingle := single_tableSize iv
    rw [hmerged] at hsingle ⊢
    obtain ⟨-, hback⟩ := hsingle.around hentry
    have hother : ∀ other ∈ back, other.settingsId ≠ entry.settingsId := by
      rw [hentry]
      exact entriesOf_eq_nil.1 hback
    rw [List.foldl_append, List.foldl_append, List.foldl_append, List.foldl_cons, List.foldl_cons,
      List.foldl_cons, List.foldl_nil, foldl_comm apply_comm hother,
      foldl_comm apply_comm (hentry ▸ hother), apply_over _ _ _ hentry.symm]

/-- Allowed entries remain allowed. -/
lemma ivCheck_ordered {iv' : List SettingsEntry} (h : Ordered iv iv') (hiv : ivCheck iv = true) :
    ivCheck iv' = true := by
  have hmerged : ∀ entry ∈ merged iv, ivCheck [entry] = true := by
    intro entry hentry
    rw [ivCheck, List.all_eq_true] at hiv
    simpa [ivCheck] using hiv entry (mem_of_mem_merged hentry)
  have hall : ∀ iv : List SettingsEntry, ivCheck iv = true ↔
      ∀ entry ∈ iv, ivCheck [entry] = true := by
    intro iv
    simp [ivCheck]
  rw [hall]
  cases h with
  | same h => exact hmerged
  | split hsplit hentry hne =>
    rw [hsplit] at hmerged
    intro entry hmem
    simp only [List.mem_append, List.mem_cons, List.not_mem_nil, or_false] at hmem hmerged
    rcases hmem with (hmem | rfl | hmem) | rfl
    · exact hmerged entry (Or.inl hmem)
    · rfl
    · exact hmerged entry (Or.inr (Or.inr hmem))
    · exact hmerged entry (Or.inr (Or.inl rfl))

/-- **For the settings of the peer** the entries that remain mean the same as all entries. -/
theorem remoteSettings_ordered {iv' : List SettingsEntry} (h : Ordered iv iv')
    (hiv : ivCheck iv = true) (session : Session σ) :
    (session.onSettingsReceived iv').remoteSettings =
      (session.onSettingsReceived iv).remoteSettings := by
  rw [remoteSettings_onSettingsReceived session (ivCheck_ordered h hiv),
    remoteSettings_onSettingsReceived session hiv, foldl_ordered h]

/-- The values of a payload have 32 bits. -/
lemma value_unpackSettingsPayload_lt (payload : Bytes) {entry : SettingsEntry}
    (h : entry ∈ Session.unpackSettingsPayload payload) : entry.value < 2 ^ 32 := by
  fun_induction Session.unpackSettingsPayload payload with
  | case1 b₀ b₁ b₂ b₃ b₄ b₅ payload ih =>
    rcases List.mem_cons.1 h with rfl | hmem
    · have h₂ := b₂.toNat_lt
      have h₃ := b₃.toNat_lt
      have h₄ := b₄.toNat_lt
      have h₅ := b₅.toNat_lt
      simp only
      omega
    · exact ih hmem
  | case2 payload => cases h

/-- **A SETTINGS frame and the payload of an upgrade request mean the same**, whatever the frame
repeats: its entries always fit into the array, of the sizes of the header table the smallest and
the last one remain, and the settings of the peer are those of the entries one after the other. -/
theorem unpackSettings_payload (junk : ℕ → SettingsEntry) (session : Session σ) (payload : Bytes) :
    ∃ iv, unpackSettings junk (Session.unpackSettingsPayload payload) = some iv ∧
      tableSizes iv = smallestAndLast (tableSizes (Session.unpackSettingsPayload payload)) ∧
      (ivCheck (Session.unpackSettingsPayload payload) = true →
        (session.onSettingsReceived iv).remoteSettings =
          (session.onSettingsReceived (Session.unpackSettingsPayload payload)).remoteSettings) := by
  obtain ⟨iv, hunpack, hordered⟩ := exists_unpackSettings junk
    fun _ => value_unpackSettingsPayload_lt payload
  exact ⟨iv, hunpack, tableSizes_ordered hordered, fun hiv =>
    remoteSettings_ordered hordered hiv session⟩

end KituraHTTP2.Nghttp2
