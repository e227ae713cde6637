import TeeAnchor.DbLines

/-!
# The revocation database is read back as it was written

An entry as the loader makes them is written as a line that gives this entry,
unless the line is taken for a comment or for the CRL number.
-/

namespace TeeAnchor.Ca

/-- An entry as the loader makes them. -/
structure RevocationEntry.WellFormed (entry : RevocationEntry) : Prop where
  serial : IsWord entry.serialHex
  lower : entry.serialHex.map toLower = entry.serialHex
  date : IsWord entry.revocationDate
  trimmed : trim entry.reason = entry.reason
  oneLine : 10 ∉ entry.reason

/-- The line of an entry is taken for the CRL number. -/
def RevocationEntry.Tagged (entry : RevocationEntry) : Prop :=
  crlNumberTag <+: entry.serialHex

instance (entry : RevocationEntry) : Decidable entry.Tagged :=
  inferInstanceAs (Decidable (_ <+: _))

/-- The line of an entry is not taken for a comment or the CRL number. -/
def RevocationEntry.Legible (entry : RevocationEntry) : Prop :=
  entry.serialHex.head? ≠ some 35 ∧ ¬ entry.Tagged

instance (entry : RevocationEntry) : Decidable entry.Legible :=
  inferInstanceAs (Decidable (_ ∧ _))

theorem toLower_idempotent (byte : UInt8) :
    toLower (toLower byte) = toLower byte := by
  unfold toLower
  by_cases upper : (65 ≤ byte && byte ≤ 90) = true
  · have bounds := upper
    simp only [Bool.and_eq_true, decide_eq_true_eq, UInt8.le_iff_toNat_le,
      UInt8.reduceToNat] at bounds
    have notUpper : (65 ≤ byte + 32 && byte + 32 ≤ 90) = false := by
      simp only [Bool.and_eq_false_iff, decide_eq_false_iff_not,
        UInt8.le_iff_toNat_le, UInt8.reduceToNat, UInt8.toNat_add]
      omega
    simp only [upper, notUpper, if_true, Bool.false_eq_true, if_false]
  · simp only [upper]
    simp [upper]

theorem isSpace_of_isBlank {byte : UInt8} (blank : isBlank byte = true) :
    isSpace byte = true := by
  simp only [isBlank, Bool.or_eq_true, beq_iff_eq] at blank
  rcases blank with ((rfl | rfl) | rfl) | rfl
  all_goals rfl

theorem isBlank_of_not_isSpace {byte : UInt8} (noSpace : isSpace byte = false) :
    isBlank byte = false := by
  by_contra blank
  rw [Bool.not_eq_false] at blank
  rw [isSpace_of_isBlank blank] at noSpace
  cases noSpace

theorem isSpace_toLower (byte : UInt8) :
    isSpace (toLower byte) = isSpace byte := by
  unfold toLower
  by_cases upper : (65 ≤ byte && byte ≤ 90) = true
  · have bounds := upper
    simp only [Bool.and_eq_true, decide_eq_true_eq, UInt8.le_iff_toNat_le,
      UInt8.reduceToNat] at bounds
    rw [if_pos upper, @not_isSpace_of_large byte (by omega),
      not_isSpace_of_large]
    simp only [UInt8.toNat_add, UInt8.reduceToNat]
    omega
  · rw [if_neg upper]

/-- The entry of a line that is not refused is well formed. -/
theorem lineEntry_wellFormed {line : Bytes} (oneLine : 10 ∉ line)
    (accepted : ¬ LineRefused line) {entry : RevocationEntry}
    (added : lineEntry line = some entry) : entry.WellFormed := by
  unfold lineEntry at added
  split at added
  · rename_i isEntry
    cases added
    have dateFound : (extractWord (afterKeyword line)).1 ≠ [] := by
      intro noDate
      exact accepted (Or.inr ⟨isEntry, noDate⟩)
    have serialFound : (extractWord (trim line)).1 ≠ [] := by
      intro noSerial
      apply dateFound
      rw [afterKeyword, extractWord_nil noSerial]
      rfl
    have serialWord := isWord_extractWord serialFound
    refine ⟨⟨?_, ?_⟩, ?_, isWord_extractWord dateFound,
      strip_idempotent _ _, ?_⟩
    · simpa using serialFound
    · intro byte byteMember
      obtain ⟨upper, upperMember, rfl⟩ := List.mem_map.mp byteMember
      rw [isSpace_toLower]
      exact serialWord.2 upper upperMember
    · rw [List.map_map]
      apply List.map_congr_left
      intro byte _
      exact toLower_idempotent byte
    · intro newline
      apply oneLine
      apply @mem_of_mem_strip _ isBlank
      apply mem_of_mem_extractWord (Or.inr _)
      apply mem_of_mem_extractWord (Or.inr _)
      exact mem_of_mem_strip newline
  · cases added

theorem loadRevocationDb_wellFormed {path : String} {outcome : ReadOutcome}
    {db : RevocationDb} (loads : loadRevocationDb path outcome = .ok db) :
    ∀ entry ∈ db.entries, entry.WellFormed := by
  cases outcome with
  | cannotOpen =>
      cases loads
      simp
  | opened delivered readError =>
      obtain ⟨accepted, rfl⟩ := loadRevocationDb_eq_ok.mp loads
      intro entry member
      obtain ⟨line, lineMember, added⟩ := List.mem_filterMap.mp member
      exact lineEntry_wellFormed
        (not_mem_getlines List.not_mem_nil line lineMember)
        (accepted line lineMember) added

theorem not_mem_of_isWord {word : Bytes} (isWord : IsWord word) {byte : UInt8}
    (space : isSpace byte = true) : byte ∉ word := by
  intro member
  rw [isWord.2 byte member] at space
  cases space

theorem oneLine_entryLine {entry : RevocationEntry}
    (wellFormed : entry.WellFormed) : 10 ∉ entryLine entry := by
  have serial := @not_mem_of_isWord _ wellFormed.serial 10 rfl
  have date := @not_mem_of_isWord _ wellFormed.date 10 rfl
  have reason := wellFormed.oneLine
  unfold entryLine
  split
  · simp [serial, date]
  · simp [serial, date, reason]

theorem getLast_trim {text : Bytes} (trimmed : trim text = text) :
    ∀ byte ∈ text.getLast?, isBlank byte = false := by
  intro byte last
  have nonempty : text ≠ [] := by
    rintro rfl
    cases last
  have kept : strip isBlank text ≠ [] := by
    rwa [← trimmed] at nonempty
  have ending := List.rdropWhile_last_not isBlank _ kept
  have same : (strip isBlank text).getLast kept = text.getLast nonempty := by
    congr 1
  rw [List.getLast?_eq_getLast_of_ne_nil nonempty] at last
  cases last
  change ¬ isBlank ((strip isBlank text).getLast kept) at ending
  rw [same] at ending
  simpa using ending

theorem head_entryLine {entry : RevocationEntry}
    (wellFormed : entry.WellFormed) :
    (entryLine entry).head? = entry.serialHex.head? := by
  rw [entryLine, List.head?_append_of_ne_nil _ wellFormed.serial.1]

theorem trim_entryLine {entry : RevocationEntry}
    (wellFormed : entry.WellFormed) :
    trim (entryLine entry) = entryLine entry := by
  apply strip_eq_self
  · intro byte first
    rw [head_entryLine wellFormed] at first
    exact isBlank_of_not_isSpace
      (wellFormed.serial.2 byte (List.mem_of_head? first))
  · intro byte last
    unfold entryLine at last
    split at last
    · rw [List.append_nil, List.getLast?_append_of_ne_nil _ (by simp),
        List.getLast?_cons_of_ne_nil wellFormed.date.1] at last
      exact isBlank_of_not_isSpace
        (wellFormed.date.2 byte (List.mem_of_getLast? last))
    · rename_i reason
      rw [List.isEmpty_iff] at reason
      rw [List.getLast?_append_of_ne_nil _ (by simp),
        List.getLast?_cons_of_ne_nil (by simp),
        List.getLast?_append_of_ne_nil _ (by simp),
        List.getLast?_cons_of_ne_nil reason] at last
      exact getLast_trim wellFormed.trimmed byte last

theorem tag_prefix_iff {tag word rest : Bytes} (noBlank : 32 ∉ tag) :
    tag <+: word ++ 32 :: rest ↔ tag <+: word := by
  constructor
  · intro isPrefix
    have wordPrefix : word ++ [32] <+: word ++ 32 :: rest :=
      ⟨rest, by simp⟩
    rcases List.prefix_or_prefix_of_prefix isPrefix wordPrefix with
      short | long
    · rcases List.prefix_concat_iff.mp short with rfl | inWord
      · simp at noBlank
      · exact inWord
    · exact absurd (long.subset (by simp)) noBlank
  · intro isPrefix
    exact isPrefix.trans (List.prefix_append _ _)

theorem crlNumberTag_prefix_entryLine (entry : RevocationEntry) :
    crlNumberTag <+: entryLine entry ↔ entry.Tagged := by
  exact tag_prefix_iff (by decide)

/-- The words of the line of an entry. -/
theorem extractWord_entryLine {entry : RevocationEntry}
    (wellFormed : entry.WellFormed) :
    ∃ afterSerial rest,
      extractWord (entryLine entry) = (entry.serialHex, afterSerial) ∧
      extractWord afterSerial = (entry.revocationDate, rest) ∧
      trim rest = entry.reason := by
  refine ⟨32 :: (entry.revocationDate ++
    if entry.reason.isEmpty then [] else 32 :: entry.reason),
    if entry.reason.isEmpty then [] else 32 :: entry.reason, ?_, ?_, ?_⟩
  · apply extractWord_append wellFormed.serial
    intro byte first
    cases first
    rfl
  · rw [extractWord_cons_space rfl]
    apply extractWord_append wellFormed.date
    intro byte first
    split at first
    · cases first
    · cases first
      rfl
  · by_cases empty : entry.reason.isEmpty
    · rw [if_pos empty]
      rw [List.isEmpty_iff] at empty
      rw [empty]
      rfl
    · rw [if_neg empty, trim, strip_cons_blank rfl]
      exact wellFormed.trimmed

theorem isIgnored_entryLine {entry : RevocationEntry}
    (wellFormed : entry.WellFormed) :
    isIgnored (entryLine entry) = (entry.serialHex.head? == some 35) := by
  have notEmpty : (entryLine entry).isEmpty = false := by
    simp [entryLine, wellFormed.serial.1]
  rw [isIgnored, trim_entryLine wellFormed, notEmpty, Bool.false_or,
    head_entryLine wellFormed]

theorem tagged_entryLine {entry : RevocationEntry}
    (wellFormed : entry.WellFormed) :
    crlNumberTag.isPrefixOf (trim (entryLine entry)) =
      decide entry.Tagged := by
  rw [trim_entryLine wellFormed, Bool.eq_iff_iff, decide_eq_true_iff,
    List.isPrefixOf_iff_prefix]
  exact crlNumberTag_prefix_entryLine entry

/-- The line of an entry is the line of an entry exactly when the entry is
legible. -/
theorem isEntryLine_entryLine {entry : RevocationEntry}
    (wellFormed : entry.WellFormed) :
    isEntryLine (entryLine entry) = decide entry.Legible := by
  rw [isEntryLine, isIgnored_entryLine wellFormed, tagged_entryLine wellFormed,
    Bool.eq_iff_iff, decide_eq_true_iff]
  simp [RevocationEntry.Legible]

/-- An entry that is not legible is dropped. -/
theorem lineEntry_entryLine {entry : RevocationEntry}
    (wellFormed : entry.WellFormed) :
    lineEntry (entryLine entry) = Option.guard (·.Legible) entry := by
  obtain ⟨afterSerial, rest, serial, date, reason⟩ :=
    extractWord_entryLine wellFormed
  unfold lineEntry afterKeyword Option.guard
  simp only [isEntryLine_entryLine wellFormed, trim_entryLine wellFormed,
    serial, date, reason, wellFormed.lower]

theorem isNumberLine_entryLine {entry : RevocationEntry}
    (wellFormed : entry.WellFormed) (untagged : ¬ entry.Tagged) :
    isNumberLine (entryLine entry) = false := by
  rw [isNumberLine, tagged_entryLine wellFormed, decide_eq_false untagged,
    Bool.and_false]

theorem not_lineRefused_entryLine {entry : RevocationEntry}
    (wellFormed : entry.WellFormed) (untagged : ¬ entry.Tagged) :
    ¬ LineRefused (entryLine entry) := by
  rintro (⟨number, _⟩ | ⟨_, noDate⟩)
  · rw [isNumberLine_entryLine wellFormed untagged] at number
    cases number
  · obtain ⟨afterSerial, rest, serial, date, _⟩ :=
      extractWord_entryLine wellFormed
    rw [afterKeyword, trim_entryLine wellFormed, serial, date] at noDate
    exact wellFormed.date.1 noDate

theorem isSpace_of_mem_decimal {number : Nat} :
    ∀ byte ∈ decimal number, isSpace byte = false := by
  intro byte member
  exact not_isSpace_of_isDigit (isDigit_of_mem_decimal byte member)

theorem trim_crlNumberLine (number : UInt64) :
    trim (crlNumberLine number) = crlNumberLine number := by
  apply strip_eq_self
  · intro byte first
    rw [crlNumberLine, List.head?_append_of_ne_nil _ (by decide)] at first
    cases first
    rfl
  · intro byte last
    rw [crlNumberLine, List.getLast?_append_of_ne_nil _ (by simp),
      List.getLast?_cons_of_ne_nil (decimal_ne_nil _)] at last
    exact isBlank_of_not_isSpace
      (isSpace_of_mem_decimal byte (List.mem_of_getLast? last))

theorem isNumberLine_crlNumberLine (number : UInt64) :
    isNumberLine (crlNumberLine number) = true := by
  have notComment : (crlNumberLine number).head? = some 99 := by
    rw [crlNumberLine, List.head?_append_of_ne_nil _ (by decide)]
    rfl
  have notEmpty : (crlNumberLine number).isEmpty = false := by
    simp [crlNumberLine]
  rw [isNumberLine, isIgnored, trim_crlNumberLine, notComment, notEmpty,
    Bool.and_eq_true, List.isPrefixOf_iff_prefix]
  exact ⟨rfl, List.prefix_append _ _⟩

theorem afterKeyword_crlNumberLine (number : UInt64) :
    afterKeyword (crlNumberLine number) = 32 :: decimal number.toNat := by
  have words : extractWord (crlNumberLine number) =
      (crlNumberTag, 32 :: decimal number.toNat) := by
    apply extractWord_append (by decide)
    intro byte first
    cases first
    rfl
  rw [afterKeyword, trim_crlNumberLine, words]

theorem lineNumber_crlNumberLine (number : UInt64) :
    lineNumber (crlNumberLine number) = some number := by
  rw [lineNumber, if_pos (isNumberLine_crlNumberLine number),
    afterKeyword_crlNumberLine, extractUInt64_decimal]

theorem isEntryLine_crlNumberLine (number : UInt64) :
    isEntryLine (crlNumberLine number) = false := by
  rcases line_cases (crlNumberLine number) with ⟨_, noNumber, _⟩ |
    ⟨_, noEntry⟩ | ⟨noNumber, _⟩
  · rw [isNumberLine_crlNumberLine] at noNumber
    cases noNumber
  · exact noEntry
  · rw [isNumberLine_crlNumberLine] at noNumber
    cases noNumber

theorem not_lineRefused_crlNumberLine (number : UInt64) :
    ¬ LineRefused (crlNumberLine number) := by
  rintro (⟨_, refused⟩ | ⟨entry, _⟩)
  · rw [afterKeyword_crlNumberLine, ← numberRefused_iff, extractUInt64_decimal]
      at refused
    cases refused
  · rw [isEntryLine_crlNumberLine] at entry
    cases entry

theorem getlines_dbText {db : RevocationDb}
    (wellFormed : ∀ entry ∈ db.entries, entry.WellFormed) :
    getlines false [] (dbText db) = dbLines db := by
  rw [dbText, getlines_flatMap, List.map_id']
  intro line member
  rw [dbLines, List.mem_append, List.mem_cons, List.mem_map] at member
  rcases member with header | rfl | ⟨entry, entryMember, rfl⟩
  · revert line
    decide +kernel
  · rw [crlNumberLine, List.mem_append, List.mem_cons]
    rintro (inTag | blank | inNumber)
    · revert inTag
      decide
    · cases blank
    · have digit := isSpace_of_mem_decimal 10 inNumber
      cases digit
  · exact oneLine_entryLine (wellFormed entry entryMember)

theorem lineEntry_dbLines {db : RevocationDb}
    (wellFormed : ∀ entry ∈ db.entries, entry.WellFormed) :
    (dbLines db).filterMap lineEntry = db.entries.filter (·.Legible) := by
  have header : headerLines.filterMap lineEntry = [] := by
    decide +kernel
  have number : lineEntry (crlNumberLine db.crlNumber) = none := by
    rw [lineEntry, isEntryLine_crlNumberLine, if_neg Bool.false_ne_true]
  rw [dbLines, List.filterMap_append, header, List.nil_append,
    List.filterMap_cons_none number, List.filterMap_map,
    ← List.filterMap_eq_filter]
  apply List.filterMap_congr
  intro entry member
  exact lineEntry_entryLine (wellFormed entry member)

theorem lineNumber_dbLines {db : RevocationDb}
    (wellFormed : ∀ entry ∈ db.entries, entry.WellFormed)
    (untagged : ∀ entry ∈ db.entries, ¬ entry.Tagged) :
    (dbLines db).filterMap lineNumber = [db.crlNumber] := by
  have header : headerLines.filterMap lineNumber = [] := by
    decide +kernel
  have entries : (db.entries.map entryLine).filterMap lineNumber = [] := by
    rw [List.filterMap_eq_nil_iff, List.forall_mem_map]
    intro entry member
    rw [lineNumber, isNumberLine_entryLine (wellFormed entry member)
      (untagged entry member), if_neg Bool.false_ne_true]
  rw [dbLines, List.filterMap_append, header, List.nil_append,
    List.filterMap_cons_some (lineNumber_crlNumberLine _), entries]

theorem not_lineRefused_dbLines {db : RevocationDb}
    (wellFormed : ∀ entry ∈ db.entries, entry.WellFormed)
    (untagged : ∀ entry ∈ db.entries, ¬ entry.Tagged) :
    ∀ line ∈ dbLines db, ¬ LineRefused line := by
  intro line member
  rw [dbLines, List.mem_append, List.mem_cons, List.mem_map] at member
  rcases member with header | rfl | ⟨entry, entryMember, rfl⟩
  · revert line
    decide +kernel
  · exact not_lineRefused_crlNumberLine _
  · exact not_lineRefused_entryLine (wellFormed entry entryMember)
      (untagged entry entryMember)

/-- An entry that is not legible is dropped if it reads as a comment. -/
theorem loadRevocationDb_dbText_filter {db : RevocationDb}
    (wellFormed : ∀ entry ∈ db.entries, entry.WellFormed)
    (untagged : ∀ entry ∈ db.entries, ¬ entry.Tagged) (path : String) :
    loadRevocationDb path (.opened (dbText db) false) =
      .ok { db with entries := db.entries.filter (·.Legible) } := by
  rw [loadRevocationDb_eq_ok, getlines_dbText wellFormed,
    lineNumber_dbLines wellFormed untagged, lineEntry_dbLines wellFormed]
  exact ⟨not_lineRefused_dbLines wellFormed untagged, rfl⟩

/-- The loader reads back what is written of a database. -/
theorem loadRevocationDb_dbText {db : RevocationDb}
    (wellFormed : ∀ entry ∈ db.entries, entry.WellFormed)
    (legible : ∀ entry ∈ db.entries, entry.Legible) (path : String) :
    loadRevocationDb path (.opened (dbText db) false) = .ok db := by
  have all : db.entries.filter (·.Legible) = db.entries := by
    rw [List.filter_eq_self]
    simpa using legible
  rw [loadRevocationDb_dbText_filter wellFormed
    (fun entry member => (legible entry member).2), all]

/-- The entries that a later load finds among those that were written. -/
theorem entries_of_loadRevocationDb_dbText {db loaded : RevocationDb}
    (wellFormed : ∀ entry ∈ db.entries, entry.WellFormed) {path : String}
    (loads : loadRevocationDb path (.opened (dbText db) false) = .ok loaded) :
    loaded.entries = db.entries.filter (·.Legible) := by
  obtain ⟨_, rfl⟩ := loadRevocationDb_eq_ok.mp loads
  simp only [getlines_dbText wellFormed, lineEntry_dbLines wellFormed]

end TeeAnchor.Ca
