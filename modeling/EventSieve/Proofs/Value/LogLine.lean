import EventSieve.Proofs.Value.LineReader
import EventSieve.Proofs.Value.Texts

/-!
# Log lines are framed and lossless

The items of a list and the fields of a map are rows of the same form: parts with a comma and
a space between them. What holds of the characters of the parts therefore holds of the row,
and a reader of the parts makes a reader of the row. By induction on the values within a
value, every character of a log line is a printable one of ASCII, and the line is read back
as the event that it was written from, except that a pair of surrogates comes back as the
one character that is written in the same way.
-/

namespace EventSieve.Value

open Text

/-! ## Rows -/

def jsonRow (parts : List (List Char)) : List Char := [',', ' '].intercalate parts

def jsonField (field : WideText × Value WideText) : List Char :=
  jsonString field.1 ++ ':' :: ' ' :: json field.2

theorem jsonRow_cons_cons (part next : List Char) (parts : List (List Char)) :
    jsonRow (part :: next :: parts) = part ++ ',' :: ' ' :: jsonRow (next :: parts) := by
  rw [jsonRow, List.intercalate_cons_cons, List.append_assoc]
  rfl

theorem jsonRow_singleton (part : List Char) : jsonRow [part] = part := List.intercalate_singleton

theorem jsonItems_eq (items : List (Value WideText)) :
    jsonItems items = jsonRow (items.map json) := by
  induction items with
  | nil => rfl
  | cons v items ih =>
      cases items with
      | nil => exact (jsonRow_singleton _).symm
      | cons w items =>
          rw [jsonItems, ih]
          exact (jsonRow_cons_cons _ _ _).symm

theorem jsonFields_eq (fields : Fields WideText) :
    jsonFields fields = jsonRow (fields.map jsonField) := by
  induction fields with
  | nil => rfl
  | cons field fields ih =>
      cases fields with
      | nil => exact (jsonRow_singleton _).symm
      | cons next fields =>
          rw [jsonFields, ih]
          exact (jsonRow_cons_cons _ _ _).symm

theorem json_list (items : List (Value WideText)) :
    json (.list items) = '[' :: (jsonRow (items.map json) ++ [']']) := by
  rw [json, jsonItems_eq, List.cons_append]

theorem json_map (fields : Fields WideText) :
    json (.map fields) = '\x7b' :: (jsonRow (fields.map jsonField) ++ ['\x7d']) := by
  rw [json, jsonFields_eq, List.cons_append]

theorem length_le_length_jsonRow {parts : List (List Char)} {part : List Char}
    (h : part ∈ parts) : part.length ≤ (jsonRow parts).length := by
  induction parts with
  | nil => cases h
  | cons first parts ih =>
      cases parts with
      | nil => rw [jsonRow_singleton, List.mem_singleton.mp h]
      | cons next parts =>
          rw [jsonRow_cons_cons, List.length_append, List.length_cons, List.length_cons]
          rcases List.mem_cons.mp h with rfl | h
          · omega
          · have hle := ih h
            omega

theorem length_le_length_jsonRow_add_one (parts : List (List Char)) :
    parts.length ≤ (jsonRow parts).length + 1 := by
  induction parts with
  | nil => exact Nat.zero_le _
  | cons first parts ih =>
      cases parts with
      | nil => exact Nat.le_add_left 1 _
      | cons next parts =>
          rw [jsonRow_cons_cons]
          simp only [List.length_append, List.length_cons] at ih ⊢
          omega

/-! ## Printable characters -/

theorem isPlainAscii_hexDigitChar (n : Nat) :
    isPlainAscii (hexDigitChar n) = true := by
  have hall : ∀ d < 16, isPlainAscii (hexDigitChar d) = true := by decide
  rw [← hexDigitChar_mod]
  exact hall (n % 16) (Nat.mod_lt n (by decide))

theorem isPlainAscii_hexDigits (width n : Nat) :
    ∀ c ∈ hexDigits width n, isPlainAscii c = true := by
  induction width generalizing n with
  | zero => exact List.forall_mem_nil _
  | succ width ih =>
      rw [hexDigits, List.forall_mem_append, List.forall_mem_singleton]
      exact ⟨ih _, isPlainAscii_hexDigitChar n⟩

theorem isPlainAscii_unitEscape (n : Nat) :
    ∀ c ∈ unitEscape n, isPlainAscii c = true := by
  rw [unitEscape, List.forall_mem_cons, List.forall_mem_cons]
  exact ⟨rfl, rfl, isPlainAscii_hexDigits 4 n⟩

theorem isPlainAscii_jsonChar (c : Char) : ∀ d ∈ jsonChar c, isPlainAscii d = true := by
  have hescape : ∀ d : Char, isPlainAscii d = true →
      ∀ e ∈ ['\\', d], isPlainAscii e = true := by
    intro d hd
    rw [List.forall_mem_cons, List.forall_mem_singleton]
    exact ⟨rfl, hd⟩
  rw [jsonChar]
  split_ifs with hspecial _ _ _ _ _ hplain
  · rcases hspecial with rfl | rfl <;> exact hescape _ rfl
  · exact hescape _ rfl
  · exact hescape _ rfl
  · exact hescape _ rfl
  · exact hescape _ rfl
  · exact hescape _ rfl
  · rwa [List.forall_mem_singleton]
  · exact isPlainAscii_unitEscape _
  · rw [List.forall_mem_append]
    exact ⟨isPlainAscii_unitEscape _, isPlainAscii_unitEscape _⟩

theorem isPlainAscii_jsonCodePoint (p : CodePoint) :
    ∀ c ∈ jsonCodePoint p, isPlainAscii c = true := by
  cases p with
  | char c => exact isPlainAscii_jsonChar c
  | surrogate i => exact isPlainAscii_unitEscape _

theorem isPlainAscii_jsonString (s : WideText) :
    ∀ c ∈ jsonString s, isPlainAscii c = true := by
  rw [jsonString, List.forall_mem_append, List.forall_mem_cons, List.forall_mem_singleton]
  refine ⟨⟨rfl, ?_⟩, rfl⟩
  intro c hc
  obtain ⟨p, -, hcp⟩ := List.mem_flatMap.mp hc
  exact isPlainAscii_jsonCodePoint p c hcp

theorem isPlainAscii_jsonRow {parts : List (List Char)}
    (hparts : ∀ part ∈ parts, ∀ c ∈ part, isPlainAscii c = true) :
    ∀ c ∈ jsonRow parts, isPlainAscii c = true := by
  induction parts with
  | nil => exact List.forall_mem_nil _
  | cons part parts ih =>
      obtain ⟨hpart, hparts⟩ := List.forall_mem_cons.mp hparts
      cases parts with
      | nil => rwa [jsonRow_singleton]
      | cons next parts =>
          rw [jsonRow_cons_cons, List.forall_mem_append, List.forall_mem_cons,
            List.forall_mem_cons]
          exact ⟨hpart, rfl, rfl, ih hparts⟩

theorem isPlainAscii_json (v : Value WideText) : ∀ c ∈ json v, isPlainAscii c = true := by
  have hscalar : ∀ v : Value WideText, v.isScalar = true → ∀ c ∈ json v, isPlainAscii c = true := by
    intro v hv c hc
    exact (Bool.and_eq_true_iff.mp (isTokenChar_of_mem_json hv c hc)).1
  induction v using induction_children with
  | step v ih =>
      cases v with
      | null => exact hscalar _ rfl
      | bool b => exact hscalar _ rfl
      | int n => exact hscalar _ rfl
      | float x => exact hscalar _ rfl
      | str s => exact isPlainAscii_jsonString s
      | list items =>
          rw [json_list, List.forall_mem_cons, List.forall_mem_append, List.forall_mem_singleton]
          exact ⟨rfl, isPlainAscii_jsonRow (List.forall_mem_map.mpr ih), rfl⟩
      | map fields =>
          rw [json_map, List.forall_mem_cons, List.forall_mem_append, List.forall_mem_singleton]
          refine ⟨rfl, isPlainAscii_jsonRow (List.forall_mem_map.mpr ?_), rfl⟩
          rintro ⟨key, v⟩ hfield
          rw [jsonField, List.forall_mem_append, List.forall_mem_cons, List.forall_mem_cons]
          exact ⟨isPlainAscii_jsonString key, rfl, rfl, ih v (List.mem_map_of_mem hfield)⟩

/-! ## Pairs of surrogates -/

theorem joined_of_isScalar {v : Value WideText} (h : v.isScalar = true) : v.joined = v := by
  cases v with
  | null => rfl
  | bool b => rfl
  | int n => rfl
  | float x => rfl
  | str s => cases h
  | list items => cases h
  | map fields => cases h

theorem jsonChar_pairChar {i j : Fin 2048} (h : i < 1024 ∧ 1024 ≤ j) :
    jsonChar (pairChar i j) = unitEscape (0xD800 + i) ++ unitEscape (0xD800 + j) := by
  have hi : (i : Nat) < 1024 := h.1
  have hj : 1024 ≤ (j : Nat) := h.2
  have hcode : (pairChar i j).toNat = 0x10000 + i * 1024 + (j - 1024) := by
    rw [pairChar, Char.toNat_ofNat, if_pos]
    exact .inr ⟨by omega, by omega⟩
  have hne : ∀ c : Char, c.toNat < 0x10000 → pairChar i j ≠ c := by
    rintro c hc rfl
    omega
  have hhigh : 0xD800 + ((pairChar i j).toNat - 0x10000) / 1024 = 0xD800 + i := by omega
  have hlow : 0xDC00 + ((pairChar i j).toNat - 0x10000) % 1024 = 0xD800 + j := by omega
  have hplain : ¬ isPlainAscii (pairChar i j) = true := by
    rw [isPlainAscii, Bool.and_eq_true, decide_eq_true_eq, decide_eq_true_eq]
    omega
  rw [jsonChar, if_neg (not_or.mpr ⟨hne _ (by decide), hne _ (by decide)⟩),
    if_neg (hne _ (by decide)), if_neg (hne _ (by decide)), if_neg (hne _ (by decide)),
    if_neg (by omega), if_neg (by omega), if_neg hplain, if_neg (by omega)]
  simp only [hhigh, hlow]

theorem flatMap_jsonCodePoint_joined (s : WideText) :
    s.joined.flatMap jsonCodePoint = s.flatMap jsonCodePoint := by
  induction s using WideText.joined.induct with
  | case1 i j cs hpair ih =>
      rw [WideText.joined, if_pos hpair, List.flatMap_cons, ih, jsonCodePoint,
        jsonChar_pairChar hpair, List.append_assoc]
      rfl
  | case2 i j cs hpair ih =>
      rw [WideText.joined, if_neg hpair, List.flatMap_cons, ih]
      rfl
  | case3 p cs hne ih =>
      rw [WideText.joined, List.flatMap_cons, ih]
      · rfl
      · exact hne
  | case4 => rfl

theorem jsonString_joined (s : WideText) : jsonString s.joined = jsonString s := by
  rw [jsonString, flatMap_jsonCodePoint_joined, jsonString]

/-- A pair of surrogates and the character that it stands for are written in the same way. -/
theorem json_joined (v : Value WideText) : json v.joined = json v := by
  induction v using induction_children with
  | step v ih =>
      cases v with
      | null => rfl
      | bool b => rfl
      | int n => rfl
      | float x => rfl
      | str s => exact jsonString_joined s
      | list items =>
          have hitems : (items.map joined).map json = items.map json := by
            rw [List.map_map]
            exact List.map_congr_left ih
          rw [joined_list, json_list, json_list, hitems]
      | map fields =>
          have hfields : (fields.map joinedField).map jsonField = fields.map jsonField := by
            rw [List.map_map]
            apply List.map_congr_left
            intro field hfield
            rw [Function.comp_apply, joinedField, jsonField, jsonField, jsonString_joined,
              ih _ (List.mem_map_of_mem hfield)]
          rw [joined_map, json_map, json_map, hfields]

/-! ## Reading -/

def Ends (rest : List Char) : Prop := ∀ c ∈ rest.head?, isTokenChar c = false

theorem ends_nil : Ends [] := by
  rintro c ⟨⟩

theorem ends_cons {c : Char} (hc : isTokenChar c = false) (cs : List Char) : Ends (c :: cs) := by
  rintro d ⟨⟩
  exact hc

theorem takeWhile_of_ends {rest : List Char} (h : Ends rest) :
    rest.takeWhile isTokenChar = [] := by
  cases rest with
  | nil => rfl
  | cons c rest => rw [List.takeWhile_cons, h c rfl, if_neg Bool.false_ne_true]

theorem dropWhile_of_ends {rest : List Char} (h : Ends rest) :
    rest.dropWhile isTokenChar = rest := by
  cases rest with
  | nil => rfl
  | cons c rest => rw [List.dropWhile_cons, h c rfl, if_neg Bool.false_ne_true]

/-- A value that is read back from its text with its pairs joined, whatever comes after it. -/
def Reads (v : Value WideText) : Prop :=
  ∀ {fuel : Nat} {rest : List Char}, (json v).length ≤ fuel → Ends rest →
    readValue? fuel (json v ++ rest) = some (v.joined, rest)

theorem readValue?_of_isTokenChar {c : Char} (hc : isTokenChar c = true) (fuel : Nat)
    (cs : List Char) :
    readValue? (fuel + 1) (c :: cs) =
      (readToken? ((c :: cs).takeWhile isTokenChar)).map fun v =>
        (v, (c :: cs).dropWhile isTokenChar) := by
  rw [readValue?]
  · rintro cs' ⟨⟩
    cases hc
  · rintro cs' ⟨⟩
    cases hc
  · rintro cs' ⟨⟩
    cases hc

theorem reads_of_isScalar {v : Value WideText} (h : v.isScalar = true) : Reads v := by
  intro fuel rest hfuel hends
  have hchars := isTokenChar_of_mem_json h
  have hread := readToken?_json h
  obtain ⟨c, cs, hcs⟩ := List.exists_cons_of_ne_nil (json_ne_nil_of_isScalar h)
  rw [hcs] at hfuel hchars hread ⊢
  cases fuel with
  | zero => cases hfuel
  | succ fuel =>
      rw [List.cons_append, readValue?_of_isTokenChar (hchars c List.mem_cons_self),
        ← List.cons_append, List.takeWhile_append_of_pos hchars, takeWhile_of_ends hends,
        List.append_nil, hread, List.dropWhile_append_of_pos hchars, dropWhile_of_ends hends,
        Option.map_some, joined_of_isScalar h]

/-- What reads the parts makes up what reads the row. -/
theorem readRow?_jsonRow {α β : Type} {read? : List Char → Option (β × List Char)}
    {write : α → List Char} {result : α → β} {close : Char} (hclose : isTokenChar close = false)
    (hcomma : close ≠ ',') {parts : List α} (hne : parts ≠ [])
    (hread : ∀ a ∈ parts, ∀ rest, Ends rest → read? (write a ++ rest) = some (result a, rest))
    {fuel : Nat} (hfuel : parts.length ≤ fuel) (rest : List Char) :
    readRow? read? close fuel (jsonRow (parts.map write) ++ close :: rest) =
      some (parts.map result, rest) := by
  induction parts generalizing fuel with
  | nil => exact absurd rfl hne
  | cons a parts ih =>
      obtain ⟨ha, hparts⟩ := List.forall_mem_cons.mp hread
      cases fuel with
      | zero => cases hfuel
      | succ fuel =>
          cases parts with
          | nil =>
              rw [List.map_singleton, jsonRow_singleton, readRow?, ha _ (ends_cons hclose rest)]
              -- the bracket is no comma, so the row ends with it
              split
              · next h =>
                cases h
                exact absurd rfl hcomma
              · next h =>
                cases h
                exact if_pos rfl
              · next h => cases h
          | cons b parts =>
              have hrest := ih (List.cons_ne_nil b parts) hparts (Nat.le_of_succ_le_succ hfuel)
              rw [List.map_cons, List.map_cons, jsonRow_cons_cons, List.append_assoc,
                List.cons_append, List.cons_append, readRow?, ha _ (ends_cons rfl _)]
              show (readRow? read? close fuel
                (jsonRow ((b :: parts).map write) ++ close :: rest)).map _ = _
              rw [hrest]
              rfl

theorem readRow?_length {α β : Type} {read? : List Char → Option (β × List Char)}
    {write : α → List Char} {result : α → β} {close : Char} (hclose : isTokenChar close = false)
    (hcomma : close ≠ ',') (hempty : ∀ rest, read? (close :: rest) = none) {parts : List α}
    (hread : ∀ a ∈ parts, ∀ rest, Ends rest → read? (write a ++ rest) = some (result a, rest))
    (rest : List Char) :
    readRow? read? close (jsonRow (parts.map write) ++ close :: rest).length
      (jsonRow (parts.map write) ++ close :: rest) = some (parts.map result, rest) := by
  cases parts with
  | nil =>
      show readRow? read? close (rest.length + 1) (close :: rest) = _
      rw [readRow?, hempty]
      exact if_pos rfl
  | cons a parts =>
      apply readRow?_jsonRow hclose hcomma (List.cons_ne_nil a parts) hread
      have hle := length_le_length_jsonRow_add_one ((a :: parts).map write)
      rw [List.length_map] at hle
      rw [List.length_append, List.length_cons (a := close)]
      omega

theorem reads_list {items : List (Value WideText)} (hitems : ∀ v ∈ items, Reads v) :
    Reads (.list items) := by
  intro fuel rest hfuel _
  rw [json_list] at hfuel ⊢
  cases fuel with
  | zero => cases hfuel
  | succ fuel =>
      have hempty : ∀ rest, readValue? fuel (']' :: rest) = none := by
        intro rest
        cases fuel with
        | zero => rfl
        | succ fuel => rfl
      have hread : ∀ v ∈ items, ∀ rest, Ends rest →
          readValue? fuel (json v ++ rest) = some (v.joined, rest) := by
        intro v hv rest hends
        apply hitems v hv _ hends
        have hle := length_le_length_jsonRow (List.mem_map_of_mem (f := json) hv)
        rw [List.length_cons, List.length_append] at hfuel
        omega
      rw [List.cons_append, List.append_assoc, List.singleton_append, readValue?,
        readRow?_length rfl (by decide) hempty hread, joined_list]
      rfl

theorem readField?_jsonField {read? : List Char → Option (Value WideText × List Char)}
    {field : WideText × Value WideText} {rest : List Char}
    (hread : read? (json field.2 ++ rest) = some (field.2.joined, rest)) :
    readField? read? (jsonField field ++ rest) = some (joinedField field, rest) := by
  have htext : jsonField field ++ rest =
      '"' :: (field.1.flatMap jsonCodePoint ++ '"' :: ':' :: ' ' :: (json field.2 ++ rest)) := by
    rw [jsonField, jsonString, List.append_assoc, List.append_assoc]
    rfl
  rw [htext, readField?, readText?_jsonString]
  show (read? (json field.2 ++ rest)).map _ = _
  rw [hread]
  rfl

theorem reads_map {fields : Fields WideText} (hfields : ∀ field ∈ fields, Reads field.2) :
    Reads (.map fields) := by
  intro fuel rest hfuel _
  rw [json_map] at hfuel ⊢
  cases fuel with
  | zero => cases hfuel
  | succ fuel =>
      have hread : ∀ field ∈ fields, ∀ rest, Ends rest →
          readField? (readValue? fuel) (jsonField field ++ rest) =
            some (joinedField field, rest) := by
        intro field hfield rest hends
        apply readField?_jsonField
        apply hfields field hfield _ hends
        have hle := length_le_length_jsonRow (List.mem_map_of_mem (f := jsonField) hfield)
        rw [List.length_cons, List.length_append] at hfuel
        rw [jsonField, List.length_append, List.length_cons, List.length_cons] at hle
        omega
      rw [List.cons_append, List.append_assoc, List.singleton_append, readValue?,
        readRow?_length rfl (by decide) (fun _ => rfl) hread, joined_map]
      rfl

theorem reads_str (s : WideText) : Reads (.str s) := by
  intro fuel rest hfuel _
  cases fuel with
  | zero => cases hfuel
  | succ fuel =>
      rw [json, jsonString, List.append_assoc, List.cons_append, List.singleton_append, readValue?,
        readText?_jsonString]
      rfl

/-- Every value is read back from its text. -/
theorem reads (v : Value WideText) : Reads v := by
  induction v using induction_children with
  | step v ih =>
      cases v with
      | null => exact reads_of_isScalar rfl
      | bool b => exact reads_of_isScalar rfl
      | int n => exact reads_of_isScalar rfl
      | float x => exact reads_of_isScalar rfl
      | str s => exact reads_str s
      | list items => exact reads_list ih
      | map fields => exact reads_map fun field hfield => ih _ (List.mem_map_of_mem hfield)

/-! ## Lines -/

def line (event : Fields WideText) : String := String.ofList (json (.map event))

theorem logLines_eq (events : List (Fields WideText)) :
    logLines events =
      if ∀ event ∈ events, (map event).isWritable = true then .ok (events.map line)
      else .error unwritableMessage := by
  induction events with
  | nil => rfl
  | cons event events ih =>
      rw [logLines] at ih
      rw [logLines, List.mapM_cons, ih]
      simp only [List.forall_mem_cons]
      by_cases hevent : (map event).isWritable = true
      · by_cases hevents : ∀ event ∈ events, (map event).isWritable = true
        · rw [if_pos hevent, if_pos hevents, if_pos ⟨hevent, hevents⟩]
          rfl
        · rw [if_pos hevent, if_neg hevents, if_neg fun h => hevents h.2]
          rfl
      · have hboth : ¬ ((map event).isWritable = true ∧
            ∀ event ∈ events, (map event).isWritable = true) := fun h => hevent h.1
        rw [if_neg hevent, if_neg hboth]
        rfl

theorem readLine?_line (event : Fields WideText) :
    readLine? (line event) = some (event.map joinedField) := by
  have hread := reads (.map event) (Nat.le_refl _) ends_nil
  rw [List.append_nil, joined_map] at hread
  rw [readLine?, line, String.toList_ofList, hread]

theorem line_eq_iff {event other : Fields WideText} :
    line event = line other ↔ event.map joinedField = other.map joinedField := by
  constructor
  · intro h
    have hread := readLine?_line event
    rw [h, readLine?_line] at hread
    exact (Option.some.inj hread).symm
  · intro h
    rw [line, line, ← json_joined, joined_map, h, ← joined_map, json_joined]

/-- Each event has a line of its own, in order, unless an integer in one of them is too long to
be written, in which case there are no lines. A line consists of printable characters of ASCII,
so it holds no line break. It tells which event it was written from, up to pairs of surrogates
and the characters that they stand for; where texts hold no surrogates it tells it exactly. -/
theorem logLines_framed_lossless :
    (∀ events : List (Fields WideText),
      logLines events =
        if ∀ event ∈ events, (map event).isWritable = true then .ok (events.map line)
        else .error unwritableMessage) ∧
    (∀ event : Fields WideText, ∀ c ∈ (line event).toList, 0x20 ≤ c.toNat ∧ c.toNat ≤ 0x7E) ∧
    (∀ event : Fields WideText,
      (readLine? (line event)).map map = some (joined (.map event))) ∧
    (∀ event other : Fields WideText,
      line event = line other ↔ joined (.map event) = joined (.map other)) ∧
    ∀ event other : Event, line (widenFields event) = line (widenFields other) → event = other := by
  have hinjective : ∀ event other : Fields WideText,
      line event = line other ↔ joined (.map event) = joined (.map other) := by
    intro event other
    rw [line_eq_iff, joined_map, joined_map, map.injEq]
  refine ⟨logLines_eq, ?_, ?_, hinjective, ?_⟩
  · intro event c hc
    rw [line, String.toList_ofList] at hc
    have hplain := isPlainAscii_json (.map event) c hc
    rw [isPlainAscii, Bool.and_eq_true, decide_eq_true_eq, decide_eq_true_eq] at hplain
    omega
  · intro event
    rw [readLine?_line, joined_map]
    rfl
  · intro event other h
    have hjoined := (hinjective _ _).mp h
    have hwiden : widen (.map event) = widen (.map other) := by
      rwa [← joined_widen, ← joined_widen (.map other)]
    exact map.inj (widen_injective hwiden)

/-- Two surrogates and the character that they stand for make two events with one line, and an
integer of 4301 digits makes an event with none. -/
theorem pair_and_character_have_one_line :
    logLines [[(WideText.ofString "m", .str [.surrogate 0x3D, .surrogate 0x600])]] =
        .ok ["\x7b\"m\": \"\\ud83d\\ude00\"\x7d"] ∧
      logLines [[(WideText.ofString "m", .str (WideText.ofString "😀"))]] =
        .ok ["\x7b\"m\": \"\\ud83d\\ude00\"\x7d"] ∧
      [.surrogate 0x3D, .surrogate 0x600] ≠ WideText.ofString "😀" ∧
      logLines [[(WideText.ofString "n", .int (10 ^ 4300))]] = .error unwritableMessage := by
  refine ⟨by rfl, by rfl, by decide, ?_⟩
  rw [logLines_eq, if_neg (by decide +kernel)]

end EventSieve.Value
