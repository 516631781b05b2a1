import CodeAtlas.Proofs.Policy.Section

/-!
# The metadata at the end of a code

A compiler appends metadata to a code and, behind it, the length of the metadata in two bytes.
`EndsInMetadata` says this of a code without the way back from its end, and `metadataRange` finds
the section of exactly these codes (`metadataRange_eq_some_iff_ends`). The last two bytes fix where
the metadata starts, so that a code ends in metadata in one way only (`EndsInMetadata.unique`), and
every length that two bytes can hold is found again (`metadataRange_appendMetadata`).

The section of one code is looked for in another one by three of its bytes. That is the same as to
look for a section at the end of the other code, when this is cut where the section stops
(`hasMetadataAt_iff_take`). `metadataRange_trailing` puts these facts together.
-/

namespace CodeAtlas

/-! ## Codes that end in metadata -/

/-- A code consists of something in front, of metadata, and of the two bytes of its length. -/
structure MetadataCut (code front part : List UInt8) (high low : UInt8) : Prop where
  /-- These are the bytes of the code. -/
  eq_append : code = front ++ (part ++ [high, low])
  /-- The part in the middle is metadata. -/
  isMetadata : IsMetadata part high low

/-- A code ends in metadata and its length, and a range has the places of both. -/
def EndsInMetadata (code : List UInt8) (metadata : CodeRange) : Prop :=
  ∃ front part high low, MetadataCut code front part high low ∧
    metadata = ⟨front.length, code.length⟩

/-- The number of bytes of a code that is cut at its metadata. -/
theorem MetadataCut.length_eq {code front part : List UInt8} {high low : UInt8}
    (h : MetadataCut code front part high low) :
    code.length = front.length + (part.length + 2) := by
  rw [h.eq_append, List.length_append, List.length_append]
  rfl

/-- A code ends in metadata in one way only. -/
theorem MetadataCut.unique {code front part front' part' : List UInt8} {high low high' low' : UInt8}
    (h : MetadataCut code front part high low) (h' : MetadataCut code front' part' high' low') :
    front = front' ∧ part = part' ∧ high = high' ∧ low = low' := by
  have hsame : (front ++ part) ++ [high, low] = (front' ++ part') ++ [high', low'] := by
    rw [List.append_assoc, List.append_assoc, ← h.eq_append, ← h'.eq_append]
  -- The last two bytes are the same, and they tell how many bytes in front of them are metadata.
  obtain ⟨hbody, hlast⟩ := List.append_inj' hsame rfl
  obtain ⟨rfl, rfl⟩ : high = high' ∧ low = low' := by simpa using hlast
  have hlength : part.length = part'.length :=
    h.isMetadata.length.trans h'.isMetadata.length.symm
  obtain ⟨rfl, rfl⟩ := List.append_inj' hbody hlength
  exact ⟨rfl, rfl, rfl, rfl⟩

/-- The section found in a code is that of the metadata it ends in. -/
theorem metadataRange_eq_some_iff_ends {code : List UInt8} {metadata : CodeRange} :
    metadataRange code = some metadata ↔ EndsInMetadata code metadata := by
  constructor
  · intro h
    obtain ⟨front, part, high, low, hcode, hpart, hrange⟩ := exists_of_metadataRange h
    exact ⟨front, part, high, low, ⟨hcode, hpart⟩, hrange⟩
  · rintro ⟨front, part, high, low, ⟨rfl, hpart⟩, rfl⟩
    exact metadataRange_append front hpart

/-! ## Metadata that is appended -/

/-- A length in two bytes, the high byte first. -/
def lengthBytes (length : Nat) : List UInt8 :=
  [UInt8.ofNat (length / 256), UInt8.ofNat (length % 256)]

/-- A code with metadata and its length behind it. -/
def appendMetadata (code part : List UInt8) : List UInt8 :=
  code ++ (part ++ lengthBytes part.length)

/-- A part that starts a map is metadata, if its length fits into two bytes. -/
theorem isMetadata_of_length_le {part : List UInt8}
    (hstart : ∃ first, part.head? = some first ∧ 0xa1 ≤ first ∧ first ≤ 0xa5)
    (hlength : part.length ≤ 65535) :
    IsMetadata part (UInt8.ofNat (part.length / 256)) (UInt8.ofNat (part.length % 256)) where
  start := hstart
  length := by
    have hhigh : (UInt8.ofNat (part.length / 256)).toNat = part.length / 256 :=
      UInt8.toNat_ofNat_of_lt' (show part.length / 256 < 256 by omega)
    have hlow : (UInt8.ofNat (part.length % 256)).toNat = part.length % 256 :=
      UInt8.toNat_ofNat_of_lt' (show part.length % 256 < 256 by omega)
    rw [hhigh, hlow]
    exact (Nat.div_add_mod part.length 256).symm

/-- Metadata that is appended is found, whatever is in front of it. -/
theorem metadataRange_appendMetadata (code : List UInt8) {part : List UInt8}
    (hstart : ∃ first, part.head? = some first ∧ 0xa1 ≤ first ∧ first ≤ 0xa5)
    (hlength : part.length ≤ 65535) :
    metadataRange (appendMetadata code part) =
      some ⟨code.length, code.length + (part.length + 2)⟩ := by
  have hcut : MetadataCut (appendMetadata code part) code part _ _ :=
    ⟨rfl, isMetadata_of_length_le hstart hlength⟩
  calc metadataRange (appendMetadata code part)
      = some ⟨code.length, (appendMetadata code part).length⟩ :=
        metadataRange_eq_some_iff_ends.mpr ⟨_, _, _, _, hcut, rfl⟩
    _ = some ⟨code.length, code.length + (part.length + 2)⟩ := by rw [hcut.length_eq]

/-! ## Looking for a section in another code -/

section

variable {code running : List UInt8} {metadata : CodeRange}

/-- A code that has the section of another one reaches to where the section stops. -/
theorem RepeatsSection.stop_le (hcode : metadataRange code = some metadata)
    (h : RepeatsSection running code metadata) : metadata.stop ≤ running.length := by
  obtain ⟨hlong, hstop⟩ := metadataRange_bounds hcode
  -- The last byte of the section is there, as it is in the code of the section.
  have hlast : metadata.stop - 1 < code.length := by omega
  have hfound : running[metadata.stop - 1]? = some code[metadata.stop - 1] := by
    rw [h.low, List.getElem?_eq_getElem hlast]
  obtain ⟨hreaches, -⟩ := List.getElem?_eq_some_iff.mp hfound
  omega

/-- What stands behind a section does not tell whether a code has it. -/
theorem repeatsSection_take_iff (hcode : metadataRange code = some metadata) :
    RepeatsSection (running.take metadata.stop) code metadata ↔
      RepeatsSection running code metadata := by
  obtain ⟨-, hstop⟩ := metadataRange_bounds hcode
  have hmarks : ∀ position ∈ metadata.marks,
      (running.take metadata.stop)[position]? = running[position]? := by
    intro position hposition
    have hinside : position < code.length := lt_length_of_mem_marks hcode hposition
    exact List.getElem?_take_of_lt (by omega)
  constructor
  · exact fun h => h.congr hmarks
  · exact fun h => h.congr fun position hposition => (hmarks position hposition).symm

/-- The section of a code is found in another one, where it is looked for, if and only if it is the
section at the end of the other code up to there. -/
theorem hasMetadataAt_iff_take (hcode : metadataRange code = some metadata) :
    hasMetadataAt running code metadata = true ↔
      metadataRange (running.take metadata.stop) = some metadata := by
  obtain ⟨-, hstop⟩ := metadataRange_bounds hcode
  have hlengths : metadata.stop ≤ running.length →
      (running.take metadata.stop).length = code.length := by
    intro hreaches
    rw [List.length_take, Nat.min_eq_left hreaches, hstop]
  constructor
  · intro h
    have hrepeats : RepeatsSection running code metadata :=
      (hasMetadataAt_iff_repeatsSection hcode).mp h
    have hlength := hlengths (hrepeats.stop_le hcode)
    rw [metadataRange_eq_some_iff_repeatsSection hcode hlength, repeatsSection_take_iff hcode]
    exact hrepeats
  · intro h
    -- A section stops at the end of its code, so nothing is missing in front of the cut.
    obtain ⟨-, hend⟩ := metadataRange_bounds h
    have hreaches : metadata.stop ≤ running.length := by
      rw [List.length_take] at hend
      omega
    rw [metadataRange_eq_some_iff_repeatsSection hcode (hlengths hreaches),
      repeatsSection_take_iff hcode] at h
    exact (hasMetadataAt_iff_repeatsSection hcode).mpr h

end

/-! ## Trailing sections -/

/-- What is known of the section that is found in a code. -/
structure TrailingSection (code : List UInt8) (metadata : CodeRange) : Prop where
  /-- It has the byte that starts its map and the two bytes of its length, at least. -/
  start_le : metadata.start + 3 ≤ metadata.stop
  /-- It reaches to the end of the code. -/
  stop_eq : metadata.stop = code.length
  /-- The code ends in metadata at no other place. -/
  unique : ∀ other, EndsInMetadata code other → other = metadata
  /-- Nor can the code be cut there in another way. -/
  cut_unique : ∀ {front part front' part' high low high' low'},
    MetadataCut code front part high low → MetadataCut code front' part' high' low' →
    front = front' ∧ part = part' ∧ high = high' ∧ low = low'
  /-- It is found in another code, where it is looked for, if and only if that code reaches to where
  it stops, starts a map where it starts, and has the same two bytes at its end. -/
  found_iff : ∀ running, hasMetadataAt running code metadata = true ↔
    metadata.stop ≤ running.length ∧ RepeatsSection running code metadata
  /-- These are the codes that have it as their own section when they are cut where it stops. -/
  found_iff_take : ∀ running, hasMetadataAt running code metadata = true ↔
    metadataRange (running.take metadata.stop) = some metadata

/-- A code has a section if and only if it ends in metadata and its length.

* The section that is found has the places of both. It is the only one, and in other codes it is
  found where they end in metadata, too, when they are cut where it stops.
* Metadata of any length that two bytes can hold is found when it is appended to any code. -/
theorem metadataRange_trailing :
    (∀ code metadata, metadataRange code = some metadata ↔ EndsInMetadata code metadata) ∧
    (∀ code metadata, metadataRange code = some metadata → TrailingSection code metadata) ∧
    ∀ code part : List UInt8,
      (∃ first, part.head? = some first ∧ 0xa1 ≤ first ∧ first ≤ 0xa5) → part.length ≤ 65535 →
      metadataRange (appendMetadata code part) =
        some ⟨code.length, code.length + (part.length + 2)⟩ := by
  refine ⟨fun code metadata => metadataRange_eq_some_iff_ends, fun code metadata hcode => ?_,
    fun code part hstart hlength => metadataRange_appendMetadata code hstart hlength⟩
  obtain ⟨hlong, hstop⟩ := metadataRange_bounds hcode
  refine ⟨hlong, hstop, fun other hother => ?_, fun hcut hcut' => hcut.unique hcut',
    fun running => ?_, fun running => hasMetadataAt_iff_take hcode⟩
  · have hfound : metadataRange code = some other := metadataRange_eq_some_iff_ends.mpr hother
    exact Option.some.inj (hfound.symm.trans hcode)
  · rw [hasMetadataAt_iff_repeatsSection hcode]
    exact ⟨fun h => ⟨h.stop_le hcode, h⟩, And.right⟩

/-- A map of two entries behind two bytes of code has a section of six bytes. Init code with a map
of one entry at its place, the same length and an argument behind it has the section, too. -/
theorem metadataRange_trailing_of_arguments :
    metadataRange (appendMetadata [0x60, 0x80] [0xa2, 0x64, 0x01, 0x02]) = some ⟨2, 8⟩ ∧
      hasMetadataAt [0x60, 0x80, 0xa1, 0x05, 0x06, 0x07, 0x00, 0x04, 0x2a]
        (appendMetadata [0x60, 0x80] [0xa2, 0x64, 0x01, 0x02]) ⟨2, 8⟩ = true ∧
      metadataRange [0x60, 0x80, 0xa1, 0x05, 0x06, 0x07, 0x00, 0x04] = some ⟨2, 8⟩ := by
  obtain ⟨-, hsections, hfound⟩ := metadataRange_trailing
  have hcode := hfound [0x60, 0x80] [0xa2, 0x64, 0x01, 0x02] ⟨0xa2, rfl, by decide, by decide⟩
    (by decide)
  have hsection := hsections _ _ hcode
  have hrepeats : RepeatsSection [0x60, 0x80, 0xa1, 0x05, 0x06, 0x07, 0x00, 0x04, 0x2a]
      (appendMetadata [0x60, 0x80] [0xa2, 0x64, 0x01, 0x02]) ⟨2, 8⟩ :=
    ⟨⟨0xa1, rfl, by decide, by decide⟩, rfl, rfl⟩
  have hother := (hsection.found_iff _).mpr ⟨by decide, hrepeats⟩
  exact ⟨hcode, hother, (hsection.found_iff_take _).mp hother⟩

end CodeAtlas
