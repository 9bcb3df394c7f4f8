import ReportBinding.Quote.Layout

/-!
# Fields of byte sequences and of bare quotes

A field that has been written is read back, and fields in front of it are left
alone.  So a bare quote attests the report data that it was made over:
`Quote.reportData_bare`.
-/

namespace ReportBinding
namespace Bytes

variable {start : Nat} {field content : Bytes}

theorem length_overwrite (fits : start + field.length ≤ content.length) :
    (overwrite start field content).length = content.length := by
  simp only [overwrite, List.length_append, List.length_take,
    List.length_drop]
  omega

/-- A field that has been written is read back. -/
theorem slice_overwrite {width : Nat} (hasWidth : field.length = width)
    (begins : start ≤ content.length) :
    slice start width (overwrite start field content) = field := by
  have lead : (content.take start).length = start :=
    List.length_take_of_le begins
  rw [slice, overwrite, List.append_assoc, List.drop_left' lead,
    List.take_left' hasWidth]

/-- A field is as it was once another one has been written behind it. -/
theorem slice_overwrite_of_le {position width : Nat}
    (inFront : position + width ≤ start) (begins : start ≤ content.length) :
    slice position width (overwrite start field content) =
      slice position width content := by
  have lead : (content.take start).length = start :=
    List.length_take_of_le begins
  rw [slice, overwrite, List.append_assoc,
    List.drop_append_of_le_length (by omega),
    List.take_append_of_le_length (by rw [List.length_drop]; omega),
    List.drop_take, List.take_take]
  congr 1
  omega

end Bytes

namespace Quote

/-- A quote of a known version with a TDX header attests the bytes that stand
where the version puts its report data. -/
theorem extractReportData_eq_ok {bytes : Bytes} {header : Header}
    {offset : Nat} (isHeader : readHeader bytes = .ok header)
    (isTdx : header.teeType = tdxType)
    (located : reportDataOffset header.version = .ok offset)
    (fits : offset + ReportData.width ≤ bytes.length)
    {reportData : ReportData}
    (attests : Bytes.slice offset ReportData.width bytes = reportData.bytes) :
    extractReportData bytes = .ok reportData := by
  unfold extractReportData
  simp only [isHeader, isTdx, ne_eq, not_true_eq_false, if_false, located,
    dif_pos fits]
  exact congrArg Except.ok (ReportData.ext attests)

/-- The bytes of a bare quote in front of its report data, with room for it. -/
def frame (version offset : Nat) : Bytes :=
  Bytes.overwrite 4 (Bytes.ofLittleEndian 4 tdxType) <|
    Bytes.overwrite 2 (Bytes.ofLittleEndian 2 ecdsaKeyType) <|
      Bytes.overwrite 0 (Bytes.ofLittleEndian 2 version) <|
        List.replicate (offset + ReportData.width + bareTailLength) 0

theorem length_frame (version offset : Nat) :
    (frame version offset).length =
      offset + ReportData.width + bareTailLength := by
  unfold frame bareTailLength
  rw [Bytes.length_overwrite, Bytes.length_overwrite, Bytes.length_overwrite]
  all_goals simp [Bytes.length_overwrite]

/-- A bare quote has a header that tells its version and a TDX environment. -/
theorem readHeader_frame {version offset : Nat}
    (small : version < Bytes.capacity 2) (behind : headerLength ≤ offset)
    (reportData : ReportData) :
    readHeader
        (Bytes.overwrite offset reportData.bytes (frame version offset)) =
      .ok ⟨version, ecdsaKeyType, tdxType⟩ := by
  have length := length_frame version offset
  have width : reportData.bytes.length = 64 := reportData.length_bytes
  unfold headerLength at behind
  simp only [ReportData.width, bareTailLength] at length
  have begins : offset ≤ (frame version offset).length := by omega
  have isVersion : Bytes.slice 0 2 (frame version offset) =
      Bytes.ofLittleEndian 2 version := by
    unfold frame bareTailLength
    rw [Bytes.slice_overwrite_of_le, Bytes.slice_overwrite_of_le,
      Bytes.slice_overwrite]
    all_goals simp [Bytes.length_overwrite]
  have isKeyType : Bytes.slice 2 2 (frame version offset) =
      Bytes.ofLittleEndian 2 ecdsaKeyType := by
    unfold frame bareTailLength
    rw [Bytes.slice_overwrite_of_le, Bytes.slice_overwrite]
    all_goals simp [Bytes.length_overwrite]
  have isType : Bytes.slice 4 4 (frame version offset) =
      Bytes.ofLittleEndian 4 tdxType := by
    unfold frame bareTailLength
    rw [Bytes.slice_overwrite]
    all_goals simp [Bytes.length_overwrite]
  rw [readHeader, if_neg]
  · rw [Bytes.slice_overwrite_of_le (by omega) begins,
      Bytes.slice_overwrite_of_le (by omega) begins,
      Bytes.slice_overwrite_of_le (by omega) begins, isVersion, isKeyType,
      isType, Bytes.littleEndian_ofLittleEndian 2 version small]
    rfl
  · rw [Bytes.length_overwrite (by omega), headerLength]
    omega

/-- A bare quote of a known version attests the report data that it was made
over. -/
theorem reportData_bare {version offset : Nat}
    (located : reportDataOffset version = .ok offset)
    (reportData : ReportData) :
    (bare version reportData).reportData = .ok reportData := by
  have isBare : (bare version reportData).bytes =
      Bytes.overwrite offset reportData.bytes (frame version offset) := by
    simp only [bare, located, frame]
  have bounds : version < Bytes.capacity 2 ∧ headerLength ≤ offset := by
    unfold reportDataOffset at located
    split at located
    · cases located
      decide
    · cases located
      decide
    · cases located
  have length := length_frame version offset
  have width : reportData.bytes.length = ReportData.width :=
    reportData.length_bytes
  rw [Quote.reportData, isBare]
  apply extractReportData_eq_ok
    (readHeader_frame bounds.1 bounds.2 reportData) rfl located
  · rw [Bytes.length_overwrite (by omega)]
    omega
  · exact Bytes.slice_overwrite width (by omega)

end Quote
end ReportBinding
