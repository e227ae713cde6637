import TeeAnchor.PkiUtil
import Mathlib.Data.List.TakeWhile

/-!
# The grammar of distinguished names

A name is meant to be a list of `key=value` segments between commas.  The loop
reads them one by one and stops at the end of the text, so that it never looks
at an empty segment there: not at the one behind a last comma, and not at the
only one of the empty text.
-/

namespace TeeAnchor.Pki

def segments (text : List Char) : List (List Char) :=
  text.splitOn ','

def dropTrailing (segments : List (List Char)) : List (List Char) :=
  if segments.getLast? = some [] then segments.dropLast else segments

/-- A segment that is not empty before its `=`, nor behind it, once blanks and
tabs are taken off, with an attribute that OpenSSL takes; and the entry it
spells. -/
def SegmentOk (ssl : OpenSsl) (segment : List Char)
    (entry : String × String) : Prop :=
  ∃ key value, segment = key ++ '=' :: value ∧ '=' ∉ key ∧
    trim key ≠ [] ∧ trim value ≠ [] ∧
    entry = (String.ofList (trim key), String.ofList (trim value)) ∧
    ssl.nameAddEntryByTxt (cStr entry.1) (cStr entry.2) = true

variable {ssl : OpenSsl}

theorem takeWhile_append_cons {α : Type} {p : α → Bool} {front : List α}
    {stop : α} (all : ∀ a ∈ front, p a = true) (stops : p stop = false)
    (rest : List α) :
    (front ++ stop :: rest).takeWhile p = front ∧
      (front ++ stop :: rest).dropWhile p = stop :: rest := by
  constructor
  · rw [List.takeWhile_append_of_pos all, List.takeWhile_cons_of_neg
      (by simp [stops]), List.append_nil]
  · rw [List.dropWhile_append_of_pos all, List.dropWhile_cons_of_neg
      (by simp [stops])]

theorem exists_split_at {text : List Char} {stop : Char}
    (member : stop ∈ text) :
    ∃ front rest, text = front ++ stop :: rest ∧ stop ∉ front :=
  List.eq_append_cons_of_mem member

theorem parts_of_split {front : List Char} {stop : Char}
    (before : stop ∉ front) (rest : List Char) :
    (front ++ stop :: rest).takeWhile (· != stop) = front ∧
      (front ++ stop :: rest).dropWhile (· != stop) = stop :: rest := by
  refine takeWhile_append_cons ?_ (by simp) rest
  intro char member
  exact bne_iff_ne.mpr fun same => before (same ▸ member)

/-- A segment spells one entry at most. -/
theorem SegmentOk.unique {segment : List Char} {entry other : String × String}
    (here : SegmentOk ssl segment entry) (there : SegmentOk ssl segment other) :
    entry = other := by
  obtain ⟨key, value, rfl, before, _, _, rfl, _⟩ := here
  obtain ⟨key', value', same, before', _, _, rfl, _⟩ := there
  have keys := (parts_of_split before value).1
  have values := (parts_of_split before value).2
  rw [same, (parts_of_split before' value').1] at keys
  rw [same, (parts_of_split before' value').2] at values
  rw [keys, (List.cons.inj values).2]

/-- `parseRdn` reads the key and the value of a segment. -/
theorem parseRdn_eq_ok {rdn : List Char} {entry : String × String} :
    parseRdn rdn = .ok entry ↔
      ∃ key value, rdn = key ++ '=' :: value ∧ '=' ∉ key ∧
        trim key ≠ [] ∧ trim value ≠ [] ∧
        entry = (String.ofList (trim key), String.ofList (trim value)) := by
  unfold parseRdn
  rw [refuse_eq_ok, refuse_eq_ok]
  constructor
  · rintro ⟨contained, notEmpty, returned⟩
    obtain ⟨key, value, rfl, before⟩ :=
      exists_split_at (by simpa using contained : '=' ∈ rdn)
    rw [(parts_of_split before value).1,
      (parts_of_split before value).2] at notEmpty
    rw [(parts_of_split before value).1,
      (parts_of_split before value).2] at returned
    rw [Bool.or_eq_true, not_or] at notEmpty
    cases returned
    exact ⟨key, value, rfl, before, by simpa using notEmpty.1,
      by simpa using notEmpty.2, rfl⟩
  · rintro ⟨key, value, rfl, before, keyNotEmpty, valueNotEmpty, rfl⟩
    rw [(parts_of_split before value).1,
      (parts_of_split before value).2]
    refine ⟨by simp, ?_, rfl⟩
    rw [Bool.or_eq_true, not_or]
    exact ⟨by simpa using keyNotEmpty, by simpa using valueNotEmpty⟩

def AppendedEntry (ssl : OpenSsl) (segment : List Char)
    (entry : String × String) : Prop :=
  ∃ spelled, SegmentOk ssl segment spelled ∧
    entry = (cStr spelled.1, cStr spelled.2)

theorem segments_ne_nil (text : List Char) : segments text ≠ [] :=
  List.splitOn_ne_nil ',' text

theorem segments_of_no_comma {text : List Char} (noComma : ',' ∉ text) :
    segments text = [text] := by
  rw [segments, List.splitOn_eq_splitOnP]
  refine List.splitOnP_eq_singleton fun char member => ?_
  exact beq_eq_false_iff_ne.mpr fun same => noComma (same ▸ member)

theorem segments_append_comma {front : List Char} (noComma : ',' ∉ front)
    (rest : List Char) :
    segments (front ++ ',' :: rest) = front :: segments rest := by
  rw [segments, segments, List.splitOn_eq_splitOnP, List.splitOn_eq_splitOnP]
  refine List.splitOnP_append_cons_of_forall_mem (fun char member => ?_) ','
    (by simp) rest
  exact beq_eq_false_iff_ne.mpr fun same => noComma (same ▸ member)

theorem dropTrailing_cons {segment : List Char} {rest : List (List Char)}
    (more : rest ≠ []) :
    dropTrailing (segment :: rest) = segment :: dropTrailing rest := by
  obtain ⟨next, others, rfl⟩ := List.exists_cons_of_ne_nil more
  unfold dropTrailing
  rw [List.getLast?_cons_cons, List.dropLast_cons_cons]
  split
  · rfl
  · rfl

theorem segments_nil : dropTrailing (segments []) = [] :=
  rfl

theorem dropTrailing_single {text : List Char} (notEmpty : text ≠ []) :
    dropTrailing [text] = [text] := by
  refine if_neg ?_
  rw [List.getLast?_singleton, Option.some.injEq]
  exact notEmpty

theorem readSegment_eq_ok {α : Type} {rdn : List Char}
    {next : String × String → Result α} {result : α} :
    (parseRdn rdn >>= fun entry =>
      if !ssl.nameAddEntryByTxt (cStr entry.1) (cStr entry.2) then
        ssl.throwOpensslError ("X509_NAME_add_entry_by_txt (" ++ entry.1 ++ ")")
          >>= fun _ : Unit => next (cStr entry.1, cStr entry.2)
      else next (cStr entry.1, cStr entry.2)) = .ok result ↔
      ∃ entry, AppendedEntry ssl rdn entry ∧ next entry = .ok result := by
  rw [bind_eq_ok]
  constructor
  · rintro ⟨spelled, read, rest⟩
    obtain ⟨key, value, isRdn, before, keyNotEmpty, valueNotEmpty, isEntry⟩ :=
      parseRdn_eq_ok.mp read
    unfold OpenSsl.throwOpensslError at rest
    rw [refuse_eq_ok] at rest
    exact ⟨(cStr spelled.1, cStr spelled.2), ⟨spelled, ⟨key, value, isRdn,
      before, keyNotEmpty, valueNotEmpty, isEntry, by simpa using rest.1⟩, rfl⟩,
      rest.2⟩
  · rintro ⟨_, ⟨spelled, ⟨key, value, isRdn, before, keyNotEmpty,
      valueNotEmpty, isEntry, taken⟩, rfl⟩, rest⟩
    refine ⟨spelled, parseRdn_eq_ok.mpr ⟨key, value, isRdn, before,
      keyNotEmpty, valueNotEmpty, isEntry⟩, ?_⟩
    rw [if_neg (by simp [taken])]
    exact rest

theorem parse_end {name result : X509Name} :
    (Except.ok name : Result X509Name) = .ok result ↔
      ∃ entries, result.entries = name.entries ++ entries ∧
        List.Forall₂ (AppendedEntry ssl) (dropTrailing (segments []))
          entries := by
  rw [segments_nil]
  constructor
  · intro returned
    cases returned
    exact ⟨[], (List.append_nil _).symm, .nil⟩
  · rintro ⟨entries, isResult, each⟩
    cases each
    rw [List.append_nil] at isResult
    have same : result = name := by
      cases result
      cases name
      exact congrArg X509Name.mk isResult
    rw [same]

/-- The entries of a text are those of its first segment and of the rest. -/
theorem entries_cons {segment : List Char} {more : List (List Char)}
    {name result : X509Name} :
    (∃ entry, AppendedEntry ssl segment entry ∧
      ∃ entries, result.entries = name.entries ++ [entry] ++ entries ∧
        List.Forall₂ (AppendedEntry ssl) more entries) ↔
      ∃ entries, result.entries = name.entries ++ entries ∧
        List.Forall₂ (AppendedEntry ssl) (segment :: more) entries := by
  constructor
  · rintro ⟨entry, isEntry, entries, isResult, each⟩
    refine ⟨entry :: entries, ?_, .cons isEntry each⟩
    rw [isResult, List.append_assoc]
    rfl
  · rintro ⟨_, isResult, each⟩
    obtain ⟨entry, entries, isEntry, rest, rfl⟩ :=
      List.forall₂_cons_left_iff.mp each
    refine ⟨entry, isEntry, entries, ?_, rest⟩
    rw [isResult, List.append_assoc]
    rfl

/-- Every round reads one segment and appends its entry. -/
theorem parseSegments_eq_ok {fuel : Nat} {text : List Char}
    {name result : X509Name} (enough : text.length ≤ fuel) :
    parseSegments ssl fuel text name = .ok result ↔
      ∃ entries, result.entries = name.entries ++ entries ∧
        List.Forall₂ (AppendedEntry ssl) (dropTrailing (segments text))
          entries := by
  induction fuel generalizing text name with
  | zero =>
      have empty : text = [] := List.length_eq_zero_iff.mp (by omega)
      rw [empty]
      exact parse_end
  | succ fuel ih =>
      cases text with
      | nil => exact parse_end
      | cons char chars =>
          by_cases comma : ',' ∈ char :: chars
          · obtain ⟨front, rest, whole, noComma⟩ := exists_split_at comma
            obtain ⟨taken, left⟩ := parts_of_split noComma rest
            have shorter : rest.length ≤ fuel := by
              have lengths := congrArg List.length whole
              rw [List.length_append, List.length_cons] at lengths
              rw [List.length_cons] at lengths enough
              omega
            have step : parseSegments ssl (fuel + 1) (char :: chars) name =
                .ok result ↔
                ∃ entry, AppendedEntry ssl front entry ∧
                  parseSegments ssl fuel rest ⟨name.entries ++ [entry]⟩ =
                    .ok result := by
              rw [← readSegment_eq_ok, parseSegments]
              simp only [whole, taken, left]
            rw [step, whole, segments_append_comma noComma,
              dropTrailing_cons (segments_ne_nil rest), ← entries_cons]
            simp only [ih shorter]
          · obtain ⟨taken, left⟩ :
                (char :: chars).takeWhile (· != ',') = char :: chars ∧
                (char :: chars).dropWhile (· != ',') = [] := by
              have all : ∀ c ∈ char :: chars, (c != ',') = true :=
                fun c member => bne_iff_ne.mpr fun same =>
                  comma (same ▸ member)
              exact ⟨List.takeWhile_eq_self_iff.mpr all,
                List.dropWhile_eq_nil_iff.mpr all⟩
            have step : parseSegments ssl (fuel + 1) (char :: chars) name =
                .ok result ↔
                ∃ entry, AppendedEntry ssl (char :: chars) entry ∧
                  (Except.ok ⟨name.entries ++ [entry]⟩ : Result X509Name) =
                    .ok result := by
              rw [← readSegment_eq_ok, parseSegments]
              simp only [taken, left]
              rfl
            rw [step, segments_of_no_comma comma,
              dropTrailing_single (List.cons_ne_nil char chars), ← entries_cons]
            simp only [@parse_end ssl, segments_nil]

/-- The name that is parsed has one entry for each segment of the text, all of
which are of the form, and there is none otherwise. -/
def ParsesGrammar (ssl : OpenSsl) (dn : String) : Prop :=
  ∀ name, parseDn ssl dn = .ok name ↔
    ssl.callFails "X509_NAME_new" = false ∧
      List.Forall₂ (SegmentOk ssl) (segments dn.toList) name.entries

theorem parseDn_eq_ok {dn : String} {name : X509Name} :
    parseDn ssl dn = .ok name ↔
      ssl.callFails "X509_NAME_new" = false ∧
      List.Forall₂ (AppendedEntry ssl)
        (dropTrailing (segments dn.toList)) name.entries := by
  unfold parseDn
  rw [bind_eq_ok]
  have enough : dn.toList.length ≤ dn.length := by
    rw [String.length_toList]
  constructor
  · rintro ⟨done, called, parsed⟩
    obtain ⟨entries, isName, each⟩ := (parseSegments_eq_ok enough).mp parsed
    rw [List.nil_append] at isName
    exact ⟨OpenSsl.call_eq_ok.mp called, isName ▸ each⟩
  · rintro ⟨called, each⟩
    exact ⟨(), OpenSsl.call_eq_ok.mpr called,
      (parseSegments_eq_ok enough).mpr
        ⟨name.entries, (List.nil_append _).symm, each⟩⟩

theorem cStr_eq_self {text : String} :
    cStr text = text ↔ nul ∉ text.toList := by
  unfold cStr
  constructor
  · intro same member
    have chars := congrArg String.toList same
    rw [String.toList_ofList, List.takeWhile_eq_self_iff] at chars
    exact absurd rfl (bne_iff_ne.mp (chars nul member))
  · intro absent
    rw [List.takeWhile_eq_self_iff.mpr, String.ofList_toList]
    intro char member
    exact bne_iff_ne.mpr fun same => absent (same ▸ member)

/-- The entry of a segment holds no NUL. -/
def NoNul (entry : String × String) : Prop :=
  nul ∉ entry.1.toList ∧ nul ∉ entry.2.toList

theorem segmentOk_appended {segment : List Char} {entry : String × String}
    (isOk : SegmentOk ssl segment entry) :
    AppendedEntry ssl segment entry ↔ NoNul entry := by
  constructor
  · rintro ⟨spelled, spelledOk, same⟩
    cases isOk.unique spelledOk
    have parts := Prod.mk.inj same
    exact ⟨cStr_eq_self.mp parts.1.symm, cStr_eq_self.mp parts.2.symm⟩
  · rintro ⟨keyWhole, valueWhole⟩
    refine ⟨entry, isOk, ?_⟩
    rw [cStr_eq_self.mpr keyWhole, cStr_eq_self.mpr valueWhole]

/-- Some segments, all of the form, have their entries. -/
theorem exists_entries {parts : List (List Char)}
    (each : ∀ segment ∈ parts, ∃ entry, SegmentOk ssl segment entry) :
    ∃ entries, List.Forall₂ (AppendedEntry ssl) parts entries := by
  induction parts with
  | nil => exact ⟨[], .nil⟩
  | cons segment parts ih =>
      rw [List.forall_mem_cons] at each
      obtain ⟨entry, isOk⟩ := each.1
      obtain ⟨entries, rest⟩ := ih each.2
      exact ⟨_, .cons ⟨entry, isOk, rfl⟩ rest⟩

theorem mem_of_mem_dropTrailing {parts : List (List Char)}
    {segment : List Char} (member : segment ∈ dropTrailing parts) :
    segment ∈ parts := by
  unfold dropTrailing at member
  split at member
  · exact (List.dropLast_sublist parts).subset member
  · exact member

theorem exists_of_forall₂ {α β : Type} {first second : α → β → Prop}
    {parts : List α} {entries : List β}
    (each : List.Forall₂ first parts entries)
    (both : List.Forall₂ second parts entries) {part : α}
    (member : part ∈ parts) : ∃ entry, first part entry ∧ second part entry := by
  induction each with
  | nil => cases member
  | cons here _ ih =>
      cases both with
      | cons there others =>
          rcases List.mem_cons.mp member with rfl | later
          · exact ⟨_, here, there⟩
          · exact ih others later

theorem forall₂_congr {α β : Type} {first second : α → β → Prop}
    {parts : List α} {entries : List β}
    (same : ∀ part ∈ parts, ∀ entry, first part entry ↔ second part entry) :
    List.Forall₂ first parts entries ↔ List.Forall₂ second parts entries := by
  induction parts generalizing entries with
  | nil => rw [List.forall₂_nil_left_iff, List.forall₂_nil_left_iff]
  | cons part parts ih =>
      rw [List.forall_mem_cons] at same
      simp only [List.forall₂_cons_left_iff, same.1, ih same.2]

/-- A text parses by the grammar exactly when a segment other than an empty last
one is refused, or there is no empty last one and no NUL in what the segments
spell. -/
theorem parseDn_grammar_iff (ssl : OpenSsl) (dn : String) :
    ParsesGrammar ssl dn ↔
      ssl.callFails "X509_NAME_new" = true ∨
      (∃ segment ∈ dropTrailing (segments dn.toList),
        ∀ entry, ¬SegmentOk ssl segment entry) ∨
      (segments dn.toList).getLast? ≠ some [] ∧
        ∀ segment ∈ segments dn.toList, ∀ entry,
          SegmentOk ssl segment entry → NoNul entry := by
  unfold ParsesGrammar
  simp only [parseDn_eq_ok]
  constructor
  · intro grammar
    by_contra escapes
    simp only [not_or, not_exists, not_and] at escapes
    obtain ⟨calls, accepted, defective⟩ := escapes
    have called : ssl.callFails "X509_NAME_new" = false :=
      Bool.eq_false_of_not_eq_true calls
    obtain ⟨entries, each⟩ := exists_entries fun segment member =>
      not_forall_not.mp (accepted segment member)
    have spelled : List.Forall₂ (SegmentOk ssl) (segments dn.toList) entries :=
      ((grammar ⟨entries⟩).mp ⟨called, each⟩).2
    -- The entries are as many as the segments, so none was left out.
    have noneLeft : (segments dn.toList).getLast? ≠ some [] := by
      intro trailing
      have fewer := each.length_eq
      have all := spelled.length_eq
      rw [dropTrailing, if_pos trailing, List.length_dropLast] at fewer
      have some := List.length_pos_of_ne_nil (segments_ne_nil dn.toList)
      omega
    rw [dropTrailing, if_neg noneLeft] at each
    refine defective noneLeft fun segment member entry isOk => ?_
    obtain ⟨appended, isAppended, spelledOk⟩ :=
      exists_of_forall₂ each spelled member
    cases isOk.unique spelledOk
    exact (segmentOk_appended isOk).mp isAppended
  · rintro (fails | ⟨segment, member, refused⟩ | ⟨noneLeft, noNul⟩) name
    · simp [fails]
    · refine iff_of_false ?_ ?_
      · rintro ⟨_, each⟩
        obtain ⟨_, ⟨entry, isOk, _⟩, _⟩ := exists_of_forall₂ each each member
        exact refused entry isOk
      · rintro ⟨_, each⟩
        obtain ⟨entry, isOk, _⟩ := exists_of_forall₂ each each
          (mem_of_mem_dropTrailing member)
        exact refused entry isOk
    · rw [dropTrailing, if_neg noneLeft]
      refine and_congr_right fun _ => forall₂_congr fun segment member entry => ?_
      constructor
      · rintro ⟨spelled, isOk, rfl⟩
        obtain ⟨keyWhole, valueWhole⟩ := noNul segment member spelled isOk
        rw [cStr_eq_self.mpr keyWhole, cStr_eq_self.mpr valueWhole]
        exact isOk
      · intro isOk
        exact (segmentOk_appended isOk).mpr (noNul segment member entry isOk)

/-- The empty text is a name without entries, and the comma behind a last
segment is ignored, while other empty segments are refused. -/
theorem parseDn_accepts_empty :
    parseDn OpenSsl.standIn "" = .ok ⟨[]⟩ ∧
    parseDn OpenSsl.standIn "CN=a," = .ok ⟨[("CN", "a")]⟩ ∧
    parseDn OpenSsl.standIn "CN=a,,O=b" =
      teeAnchorError "invalid DN segment (no '='): " ∧
    ¬ParsesGrammar OpenSsl.standIn "" ∧
    ¬ParsesGrammar OpenSsl.standIn "CN=a," := by
  have empty : parseDn OpenSsl.standIn "" = .ok ⟨[]⟩ := by decide +kernel
  have trailing : parseDn OpenSsl.standIn "CN=a," = .ok ⟨[("CN", "a")]⟩ := by
    decide +kernel
  refine ⟨empty, trailing, by decide +kernel, ?_, ?_⟩
  · intro grammar
    have lengths := ((grammar _).mp empty).2.length_eq
    revert lengths
    decide +kernel
  · intro grammar
    have lengths := ((grammar _).mp trailing).2.length_eq
    revert lengths
    decide +kernel

end TeeAnchor.Pki
