import TeeAnchor.ChipIdBinding
import TeeAnchor.SgxQuote

/-!
# The elements of the SGX extension

The SGX extension is a sequence of elements, each of which is a sequence of an
object identifier and a value.  On any list of elements in distinguished
encoding the walk is a search for the first one with the identifier: it passes
over the others by their encoded size and never looks into their values.
-/

namespace TeeAnchor.Sgx

open DefiniteTlv

/-- An element: the object, the content of its encoding, and a value under a
low tag. -/
structure ExtensionElement where
  oid : String
  oidContent : Bytes
  identifier : UInt8
  lowTag : identifier &&& 0x1f ≠ 0x1f
  content : Bytes

namespace ExtensionElement

def oidDer (item : ExtensionElement) : Bytes :=
  element 0x06 item.oidContent

def valueDer (item : ExtensionElement) : Bytes :=
  element item.identifier item.content

def inner (item : ExtensionElement) : Bytes :=
  item.oidDer ++ item.valueDer

def encoded (item : ExtensionElement) : Bytes :=
  element 0x30 item.inner

end ExtensionElement

def encodedElements (items : List ExtensionElement) : Bytes :=
  items.flatMap ExtensionElement.encoded

def extensionDer (items : List ExtensionElement) : Bytes :=
  element 0x30 (encodedElements items)

/-- `ASN1_get_object` reads an element in distinguished encoding, of any length
that a `long` can hold, and moves behind its header. -/
def ReadsLongTlv (ssl : OpenSsl) : Prop :=
  ∀ (identifier : UInt8) (content rest : Bytes),
    identifier &&& 0x1f ≠ 0x1f → content.length < 2 ^ 63 →
    ssl.asn1GetObject (element identifier content ++ rest) =
      ⟨(identifier &&& 0x20).toNat, (identifier &&& 0x1f).toNat,
        (identifier &&& 0xc0).toNat,
        1 + (shortestLength content.length).length, content.length⟩

/-- `d2i_ASN1_OBJECT` reads the object identifier of the element and moves
behind it. -/
def ReadsOid (ssl : OpenSsl) (item : ExtensionElement) : Prop :=
  ∀ rest, ssl.d2iAsn1Object (item.oidDer ++ rest) =
    some (item.oid, item.oidDer.length)

variable {ssl : OpenSsl} {target : String}

theorem asn1Failed_of_read (identifier : UInt8) (tag xclass header length : Nat) :
    asn1Failed ⟨(identifier &&& 0x20).toNat, tag, xclass, header, length⟩ =
      false := by
  have masked : ((identifier &&& 0x20).toNat &&& 0x80 != 0) = false :=
    @forall_byte (fun byte => ((byte &&& 0x20).toNat &&& 0x80 != 0) = false)
      (by decide +kernel) identifier
  exact masked

theorem isSequence :
    (((0x30 : UInt8) &&& 0x1f).toNat != vAsn1Sequence) = false := by
  decide

/-- A list of elements in a row holds each of them. -/
theorem encoded_length_le {items : List ExtensionElement}
    {item : ExtensionElement} (member : item ∈ items) :
    item.encoded.length ≤ (encodedElements items).length := by
  induction items with
  | nil => cases member
  | cons first rest ih =>
      rw [encodedElements, List.flatMap_cons, List.length_append]
      rcases List.mem_cons.mp member with rfl | later
      · omega
      · have inRest := ih later
        rw [encodedElements] at inRest
        omega

theorem inner_length_lt (item : ExtensionElement) :
    item.inner.length < item.encoded.length := by
  rw [ExtensionElement.encoded, element_length]
  omega

theorem content_length_lt (item : ExtensionElement) :
    item.content.length < item.inner.length := by
  rw [ExtensionElement.inner, List.length_append, ExtensionElement.valueDer,
    element_length]
  omega

/-- One round: an element with the identifier ends the walk with the content of
its value, and any other is passed over whole. -/
theorem walkElements_element (reads : ReadsLongTlv ssl)
    {item : ExtensionElement} (readable : ReadsOid ssl item)
    (fits : item.encoded.length < 2 ^ 63) (fuel : Nat) (rest : Bytes) :
    walkElements ssl target (fuel + 1) (item.encoded ++ rest) =
      if item.oid = target then some item.content
      else walkElements ssl target fuel rest := by
  have innerFits := inner_length_lt item
  have contentFits := content_length_lt item
  have header := reads 0x30 item.inner rest (by decide) (by omega)
  have valueHeader := reads item.identifier item.content [] item.lowTag
    (by omega)
  rw [List.append_nil] at valueHeader
  have oidRead : ssl.d2iAsn1Object item.inner =
      some (item.oid, item.oidDer.length) := readable item.valueDer
  have behindOid : item.inner.drop item.oidDer.length = item.valueDer :=
    List.drop_left
  have value := take_element_content item.identifier item.content []
  rw [List.append_nil] at value
  have notEmpty : (item.encoded ++ rest).isEmpty = false := rfl
  have step : walkElements ssl target (fuel + 1) (item.encoded ++ rest) =
      if item.oid = target then
        if asn1Failed (ssl.asn1GetObject item.valueDer) then none
        else some ((item.valueDer.drop
          (ssl.asn1GetObject item.valueDer).header).take
            (ssl.asn1GetObject item.valueDer).length)
      else walkElements ssl target fuel ((item.encoded ++ rest).drop
        (1 + (shortestLength item.inner.length).length +
          item.inner.length)) := by
    rw [walkElements, notEmpty]
    simp only [ExtensionElement.encoded, header, asn1Failed_of_read,
      isSequence, take_element_content, oidRead, behindOid, Bool.or_self,
      Bool.false_eq_true, if_false]
  rw [step]
  by_cases found : item.oid = target
  · rw [if_pos found, if_pos found, ExtensionElement.valueDer, valueHeader,
      asn1Failed_of_read, value]
    rfl
  · rw [if_neg found, if_neg found]
    exact congrArg (walkElements ssl target fuel)
      (drop_element 0x30 item.inner rest)

/-- The rounds over the elements find the first one with the identifier. -/
theorem walkElements_elements (reads : ReadsLongTlv ssl)
    {items : List ExtensionElement}
    (readable : ∀ item ∈ items, ReadsOid ssl item)
    (fits : (encodedElements items).length < 2 ^ 63) {fuel : Nat}
    (enough : items.length < fuel) :
    walkElements ssl target fuel (encodedElements items) =
      (items.find? fun item => item.oid == target).map
        ExtensionElement.content := by
  induction items generalizing fuel with
  | nil =>
      cases fuel with
      | zero => cases enough
      | succ fuel => rfl
  | cons item items ih =>
      cases fuel with
      | zero => cases enough
      | succ fuel =>
          have itemFits := encoded_length_le (List.mem_cons_self : item ∈
            item :: items)
          have split : encodedElements (item :: items) =
              item.encoded ++ encodedElements items := List.flatMap_cons
          have restFits : (encodedElements items).length < 2 ^ 63 := by
            rw [split, List.length_append] at fits
            omega
          rw [split, walkElements_element reads
            (readable item List.mem_cons_self) (by omega)]
          by_cases found : item.oid = target
          · rw [if_pos found, List.find?_cons_of_pos (by simp [found])]
            rfl
          · rw [if_neg found, List.find?_cons_of_neg (by simp [found])]
            refine ih (fun other member =>
              readable other (List.mem_cons_of_mem item member)) restFits ?_
            rw [List.length_cons] at enough
            omega

theorem length_le_encodedElements (items : List ExtensionElement) :
    items.length ≤ (encodedElements items).length := by
  induction items with
  | nil => exact Nat.le_refl 0
  | cons item items ih =>
      rw [encodedElements, List.flatMap_cons, List.length_append,
        List.length_cons]
      rw [encodedElements] at ih
      have positive := inner_length_lt item
      omega

/-- The walk over an extension is a search for the first element with the
identifier. -/
theorem walkExtension_eq_find (reads : ReadsLongTlv ssl)
    {items : List ExtensionElement}
    (readable : ∀ item ∈ items, ReadsOid ssl item)
    (fits : (encodedElements items).length < 2 ^ 63) :
    walkExtension ssl (extensionDer items) target =
      (items.find? fun item => item.oid == target).map
        ExtensionElement.content := by
  have outer := reads 0x30 (encodedElements items) [] (by decide) fits
  have content := take_element_content 0x30 (encodedElements items) []
  rw [List.append_nil] at outer content
  rw [← walkElements_elements reads readable fits
    (Nat.lt_succ_of_le (length_le_encodedElements items))]
  simp only [walkExtension, extensionDer, outer, asn1Failed_of_read,
    isSequence, content, Bool.or_self, Bool.false_eq_true, if_false]

/-- On every list of elements the walk returns the content of the first value
under the identifier, and nothing exactly when there is none; what it passes
over it passes over by its encoded size; and the same is found in a PCK leaf
that carries the extension. -/
theorem walkExtension_finds_first (reads : ReadsLongTlv ssl)
    {items : List ExtensionElement}
    (readable : ∀ item ∈ items, ReadsOid ssl item)
    (fits : (encodedElements items).length < 2 ^ 63) (target : String) :
    (∀ before item after, items = before ++ item :: after →
      item.oid = target → (∀ earlier ∈ before, earlier.oid ≠ target) →
        walkExtension ssl (extensionDer items) target = some item.content) ∧
    (walkExtension ssl (extensionDer items) target = none ↔
      ∀ item ∈ items, item.oid ≠ target) ∧
    (∀ item ∈ items, item.oid ≠ target → ∀ fuel rest,
      walkElements ssl target (fuel + 1) (item.encoded ++ rest) =
        walkElements ssl target fuel
          ((item.encoded ++ rest).drop item.encoded.length)) ∧
    ∀ leaf ext, leaf.extByObj oidSgxExtension = some ext →
      ext.value = extensionDer items → ssl.callFails "OBJ_txt2obj" = false →
        findSgxExtensionOctet ssl leaf target =
          .ok ((items.find? fun item => item.oid == target).map
            ExtensionElement.content) := by
  refine ⟨?_, ?_, ?_, ?_⟩
  · rintro before item after rfl found missing
    rw [walkExtension_eq_find reads readable fits, List.find?_append,
      List.find?_eq_none.mpr (by simpa using missing),
      List.find?_cons_of_pos (by simpa using found)]
    rfl
  · rw [walkExtension_eq_find reads readable fits, Option.map_eq_none_iff,
      List.find?_eq_none]
    simp
  · intro item member other fuel rest
    have itemFits := encoded_length_le member
    rw [walkElements_element reads (readable item member) (by omega),
      if_neg other, List.drop_left]
  · intro leaf ext found value calls
    have made : ∀ oid, ssl.makeOid oid = .ok oid := by
      intro oid
      have called : ssl.call "OBJ_txt2obj" = .ok () :=
        OpenSsl.call_eq_ok.mpr calls
      rw [OpenSsl.makeOid, called]
      rfl
    rw [← walkExtension_eq_find reads readable fits, ← value]
    unfold findSgxExtensionOctet
    simp only [made, ok_bind, found]
    rfl

/-- The reader of headers with lengths of up to eight bytes that a `long` can
hold. -/
def readLongObject : Bytes → Asn1Object
  | [] => ⟨0x80, 0, 0, 0, 0⟩
  | identifier :: rest =>
      if identifier &&& 0x1f = 0x1f then ⟨0x80, 0, 0, 0, 0⟩
      else
        match readLengthUpTo 8 rest with
        | none => ⟨0x80, 0, 0, 0, 0⟩
        | some (size, length) =>
            if size + length ≤ rest.length ∧ length < 2 ^ 63 then
              ⟨(identifier &&& 0x20).toNat, (identifier &&& 0x1f).toNat,
                (identifier &&& 0xc0).toNat, 1 + size, length⟩
            else ⟨0x80, 0, 0, 0, 0⟩

theorem readLongObject_readsLongTlv
    (reader : ssl.asn1GetObject = readLongObject) : ReadsLongTlv ssl := by
  intro identifier content rest lowTag fits
  have lengthRead := readLengthUpTo_shortest (by omega : content.length <
    256 ^ 8) (by decide) (content ++ rest)
  have enough : (shortestLength content.length).length + content.length ≤
      (shortestLength content.length ++ (content ++ rest)).length ∧
        content.length < 2 ^ 63 := by
    refine ⟨?_, fits⟩
    simp only [List.length_append]
    omega
  rw [reader, element, List.cons_append, List.append_assoc]
  simp only [readLongObject, if_neg lowTag, lengthRead, if_pos enough]

/-- A value that holds the bytes of the PPID's object identifier, in a nested
sequence. -/
def decoyElement : ExtensionElement where
  oid := "1.2.3"
  oidContent := [0x2a, 0x03]
  identifier := 0x30
  lowTag := by decide
  content := [0x30, 0x0c, 0x06, 0x0a, 0x2a, 0x86, 0x48, 0x86, 0xf8, 0x4d, 0x01,
    0x0d, 0x01, 0x01]

def ppidElement : ExtensionElement where
  oid := oidSgxPpid
  oidContent := [0x2a, 0x86, 0x48, 0x86, 0xf8, 0x4d, 0x01, 0x0d, 0x01, 0x01]
  identifier := 0x04
  lowTag := by decide
  content := [7, 7, 7, 7, 7, 7, 7, 7, 7, 7, 7, 7, 7, 7, 7, 7]

/-- A library that knows the two object identifiers. -/
def twoOidsSsl : OpenSsl :=
  { OpenSsl.standIn with
    asn1GetObject := readLongObject
    d2iAsn1Object := fun der =>
      if der.take 12 = ppidElement.oidDer then some (oidSgxPpid, 12)
      else if der.take 4 = decoyElement.oidDer then some ("1.2.3", 4)
      else none }

theorem walkExtension_finds_first_sample :
    walkExtension twoOidsSsl (extensionDer [decoyElement, ppidElement])
      oidSgxPpid = some ppidElement.content := by
  have readable : ∀ item ∈ [decoyElement, ppidElement],
      ReadsOid twoOidsSsl item := by
    intro item member
    rcases List.mem_cons.mp member with rfl | later
    · intro rest
      rfl
    · cases List.mem_singleton.mp later
      intro rest
      rfl
  exact (walkExtension_finds_first (readLongObject_readsLongTlv rfl) readable
    (by decide +kernel) oidSgxPpid).1 [decoyElement] ppidElement [] rfl rfl
      (by decide)

end TeeAnchor.Sgx
