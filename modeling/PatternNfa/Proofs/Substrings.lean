import Mathlib.Algebra.GroupWithZero.Nat
import Mathlib.Data.List.Basic
import PatternNfa.Occurrences

/-! The substrings of a text. Each stretch between two of its characters is cut out once, in the order of its beginning
and its end, and always at boundaries of characters. -/

namespace PatternNfa

namespace Text

theorem getElem?_boundariesFrom (offset : Nat) {text : List Char} {index : Nat} (inside : index ≤ text.length) :
    (boundariesFrom offset text)[index]? = some (offset + width (text.take index)) := by
  induction text generalizing offset index with
  | nil =>
    obtain rfl : index = 0 := Nat.le_zero.mp inside
    rfl
  | cons char rest ih =>
    cases index with
    | zero => rfl
    | succ index =>
      rw [boundariesFrom, List.getElem?_cons_succ, ih _ (Nat.le_of_succ_le_succ inside), List.take_succ_cons, width,
        Nat.add_assoc]

theorem dropBytes?_width (before after : List Char) : dropBytes? (width before) (before ++ after) = some after := by
  induction before with
  | nil => rw [width, List.nil_append, dropBytes?]
  | cons char rest ih =>
    have wide := char.utf8Size_pos
    rw [width, List.cons_append, dropBytes?, if_pos (Nat.le_add_right _ _), Nat.add_sub_cancel_left, ih]
    omega

theorem takeBytes?_width (before after : List Char) : takeBytes? (width before) (before ++ after) = some before := by
  induction before with
  | nil => rw [width, List.nil_append, takeBytes?]
  | cons char rest ih =>
    have wide := char.utf8Size_pos
    rw [width, List.cons_append, takeBytes?, if_pos (Nat.le_add_right _ _), Nat.add_sub_cancel_left, ih]
    · rfl
    · omega

/-- A text that is cut at two boundaries splits no character. -/
theorem slice?_boundaries (text : List Char) (start count : Nat) :
    slice? text (width (text.take start)) (width (text.take (start + count))) =
      some ((text.drop start).take count) := by
  have dropped := dropBytes?_width (text.take start) (text.drop start)
  have taken := takeBytes?_width ((text.drop start).take count) ((text.drop start).drop count)
  rw [List.take_append_drop] at dropped taken
  rw [List.take_add, width_append, slice?, if_pos (Nat.le_add_right _ _), dropped, Nat.add_sub_cancel_left]
  exact taken

/-- The characters of a text from one position up to another. -/
def between (text : String) (span : Nat × Nat) : String :=
  String.ofList ((text.toList.drop span.1).take (span.2 - span.1))

end Text

theorem mem_spansFrom {count start : Nat} {span : Nat × Nat} :
    span ∈ spansFrom count start ↔ span.1 = start ∧ span.1 < span.2 ∧ span.2 < count := by
  obtain ⟨first, last⟩ := span
  simp only [spansFrom, List.mem_map, List.mem_range'_1, Prod.mk.injEq]
  constructor
  · rintro ⟨stop, bounds, rfl, rfl⟩
    omega
  · rintro ⟨rfl, bounds⟩
    exact ⟨last, by omega, rfl, rfl⟩

theorem mem_spans {count : Nat} {span : Nat × Nat} : span ∈ spans count ↔ span.1 < span.2 ∧ span.2 < count := by
  simp only [spans, List.mem_flatMap, List.mem_range, mem_spansFrom]
  constructor
  · rintro ⟨_, _, _, bounds⟩
    exact bounds
  · intro bounds
    exact ⟨span.1, by omega, rfl, bounds⟩

theorem spansFrom_ascends (count start : Nat) : (spansFrom count start).Pairwise (Prod.Lex (· < ·) (· < ·)) := by
  rw [spansFrom, List.pairwise_map]
  exact (List.pairwise_lt_range' 1).imp fun before => Prod.Lex.right _ before

theorem spans_ascends (count : Nat) : (spans count).Pairwise (Prod.Lex (· < ·) (· < ·)) := by
  refine List.pairwise_flatMap.mpr ⟨fun start _ => spansFrom_ascends count start, ?_⟩
  apply List.pairwise_lt_range.imp
  intro start later before span left other right
  rw [Prod.lex_def]
  left
  rwa [(mem_spansFrom.mp left).1, (mem_spansFrom.mp right).1]

theorem nodup_spans (count : Nat) : (spans count).Nodup := by
  apply (spans_ascends count).imp
  intro span other before same
  subst same
  simp [Prod.lex_def] at before

section

variable {text : String}

theorem piece?_eq {span : Nat × Nat} (ordered : span.1 < span.2) (inside : span.2 ≤ text.toList.length) :
    piece? text.toList (Text.boundaries text.toList).toArray span = some (Text.between text span) := by
  obtain ⟨first, last⟩ := span
  simp only at ordered inside
  obtain ⟨count, rfl⟩ := Nat.exists_eq_add_of_le (Nat.le_of_lt ordered)
  have sliced := Text.slice?_boundaries text.toList first count
  simp only [piece?, List.getElem?_toArray, Text.boundaries, Text.getElem?_boundariesFrom 0 inside,
    Text.getElem?_boundariesFrom 0 (Nat.le_trans (Nat.le_add_right first count) inside), Nat.zero_add,
    Option.bind_eq_bind, Option.bind_some, sliced, Text.between, Nat.add_sub_cancel_left]
  rfl

theorem size_boundaries : (Text.boundaries text.toList).toArray.size = text.toList.length + 1 := by
  rw [List.size_toArray, Text.boundaries, Text.length_boundariesFrom]

theorem substringsFrom_eq (start : Nat) :
    substringsFrom text start = (spansFrom (text.toList.length + 1) start).map (Text.between text) := by
  rw [substringsFrom, size_boundaries, ← List.filterMap_eq_map]
  apply List.filterMap_congr
  intro span member
  obtain ⟨_, ordered, inside⟩ := mem_spansFrom.mp member
  exact piece?_eq ordered (Nat.le_of_lt_succ inside)

/-- No stretch begins at the end of the text. -/
theorem flatMap_substringsFrom : (List.range text.toList.length).flatMap (substringsFrom text) =
    (spans (text.toList.length + 1)).map (Text.between text) := by
  have none : spansFrom (text.toList.length + 1) text.toList.length = [] := by simp [spansFrom]
  rw [spans, List.map_flatMap, List.range_succ, List.flatMap_append, List.flatMap_singleton, none, List.map_nil,
    List.append_nil]
  exact List.flatMap_congr fun start _ => substringsFrom_eq start

theorem substrings_eq : substrings text = "" :: (spans (text.toList.length + 1)).map (Text.between text) := by
  rw [substrings, size_boundaries, ← List.filterMap_eq_map]
  congr 1
  apply List.filterMap_congr
  intro span member
  obtain ⟨ordered, inside⟩ := mem_spans.mp member
  exact piece?_eq ordered (Nat.le_of_lt_succ inside)

/-- If each beginning is dealt out once, the shares and the empty text make up all substrings. -/
theorem perm_substrings {schedule : List (List Nat)} (whole : schedule.flatten.Perm (List.range text.length)) :
    ("" :: schedule.flatMap fun starts => starts.flatMap (substringsFrom text)).Perm (substrings text) := by
  have gathered : schedule.flatten.flatMap (substringsFrom text) =
      schedule.flatMap fun starts => starts.flatMap (substringsFrom text) := by
    rw [List.flatten_eq_flatMap, List.flatMap_assoc]
    rfl
  rw [← gathered, substrings_eq, ← flatMap_substringsFrom, String.length_toList]
  exact (whole.flatMap_right _).cons ""

end

namespace Text

/-- The piece of a text between two of its boundaries, looked up by number in the table of offsets: both lie in the
text and split no character, and the bytes between them are those of the characters from one number to the other. -/
structure Cut (text : String) (span : Nat × Nat) (first last : Nat) : Prop where
  first_eq : (boundaries text.toList)[span.1]? = some first
  last_eq : (boundaries text.toList)[span.2]? = some last
  first_valid : (String.Pos.Raw.mk first).IsValid text
  last_valid : (String.Pos.Raw.mk last).IsValid text
  ordered : first < last
  inside : last ≤ text.utf8ByteSize
  slice_eq : slice? text.toList first last = some (between text span).toList
  bytes_eq : text.toByteArray.extract first last = (between text span).toByteArray

theorem isValid_width {text : String} {before after : List Char} (split : text.toList = before ++ after) :
    (String.Pos.Raw.mk (width before)).IsValid text := by
  apply String.Pos.Raw.isValid_iff_exists_append.mpr
  refine ⟨String.ofList before, String.ofList after, ?_, ?_⟩
  · rw [← String.ofList_append, ← split, String.ofList_toList]
  · rw [width_eq_utf8ByteSize]
    rfl

theorem bytes_between (before middle after : List Char) :
    (String.ofList (before ++ (middle ++ after))).toByteArray.extract (width before) (width (before ++ middle)) =
      (String.ofList middle).toByteArray := by
  have start : width before = (String.ofList before).toByteArray.size + 0 := width_eq_utf8ByteSize before
  have stop : width (before ++ middle) =
      (String.ofList before).toByteArray.size + (String.ofList middle).toByteArray.size := by
    rw [width_append, width_eq_utf8ByteSize, width_eq_utf8ByteSize]
    rfl
  rw [start, stop, String.ofList_append, String.ofList_append, String.toByteArray_append, String.toByteArray_append,
    ByteArray.extract_append_size_add, ByteArray.extract_append_eq_left rfl]

theorem width_pos {text : List Char} (nonempty : text ≠ []) : 0 < width text := by
  cases text with
  | nil => exact absurd rfl nonempty
  | cons char rest => exact Nat.lt_of_lt_of_le char.utf8Size_pos (Nat.le_add_right _ _)

theorem exists_cut {text : String} {span : Nat × Nat} (ordered : span.1 < span.2) (inside : span.2 ≤ text.length) :
    ∃ first last, Cut text span first last := by
  obtain ⟨start, stop⟩ := span
  simp only at ordered inside
  obtain ⟨count, rfl⟩ := Nat.exists_eq_add_of_le (Nat.le_of_lt ordered)
  rw [← String.length_toList] at inside
  let before := text.toList.take start
  let middle := (text.toList.drop start).take count
  let after := (text.toList.drop start).drop count
  have split : text.toList = before ++ (middle ++ after) := by
    simp only [before, middle, after, List.take_append_drop]
  have whole : text.toList.take (start + count) = before ++ middle := List.take_add
  have positive : 0 < width middle := by
    apply width_pos
    intro none
    have length := congrArg List.length none
    rw [List.length_take, List.length_drop, List.length_nil] at length
    omega
  refine ⟨width before, width (before ++ middle), ?_, ?_, isValid_width split, ?_, ?_, ?_, ?_, ?_⟩
  · rw [boundaries, getElem?_boundariesFrom 0 (Nat.le_trans (Nat.le_add_right start count) inside), Nat.zero_add]
  · rw [boundaries, getElem?_boundariesFrom 0 inside, Nat.zero_add, whole]
  · exact isValid_width (split.trans (List.append_assoc ..).symm)
  · rw [width_append]
    omega
  · have size := width_eq_utf8ByteSize text.toList
    rw [String.ofList_toList, split, ← List.append_assoc, width_append] at size
    omega
  · have sliced := slice?_boundaries text.toList start count
    rw [whole] at sliced
    rw [sliced, between, String.toList_ofList, Nat.add_sub_cancel_left]
  · have bytes := bytes_between before middle after
    rw [← split, String.ofList_toList] at bytes
    rw [bytes, between, Nat.add_sub_cancel_left]

end Text

theorem sum_ahead (count : Nat) :
    ((List.range count).map fun start => count - (start + 1)).sum * 2 = count * (count - 1) := by
  induction count with
  | zero => rfl
  | succ count ih =>
    have ahead : (fun start => count + 1 - (start + 1)) ∘ Nat.succ = fun start => count - (start + 1) := by
      funext start
      simp
    rw [List.range_succ_eq_map, List.map_cons, List.map_map, ahead, List.sum_cons, Nat.add_mul, ih]
    cases count with
    | zero => rfl
    | succ count => simp only [Nat.add_sub_cancel, Nat.add_mul, Nat.mul_add]; omega

theorem length_spans (count : Nat) : (spans (count + 1)).length = count * (count + 1) / 2 := by
  have each (start : Nat) : (spansFrom (count + 1) start).length = count + 1 - (start + 1) := by
    rw [spansFrom, List.length_map, List.length_range']
  have total := sum_ahead (count + 1)
  rw [spans, List.length_flatMap, List.map_congr_left fun start _ => each start]
  rw [Nat.add_sub_cancel, Nat.mul_comm (count + 1)] at total
  omega

/-- The non-empty substrings are the pieces between two boundaries, by the first and then by the second, each once. All
are cut out at boundaries of characters, whatever their widths are. -/
theorem substrings_enumerated (text : String) : ∃ pairs : List (Nat × Nat),
    pairs.Pairwise (Prod.Lex (· < ·) (· < ·)) ∧
    (∀ span, span ∈ pairs ↔ span.1 < span.2 ∧ span.2 ≤ text.length) ∧
    substrings text = "" :: pairs.map (Text.between text) ∧
    (substrings text).length = text.length * (text.length + 1) / 2 + 1 ∧
    (∀ span ∈ pairs, ∃ first last, Text.Cut text span first last) ∧
    (text = "" → substrings text = [""]) := by
  have members (span : Nat × Nat) : span ∈ spans (text.length + 1) ↔ span.1 < span.2 ∧ span.2 ≤ text.length := by
    rw [mem_spans, Nat.lt_succ_iff]
  have listed : substrings text = "" :: (spans (text.length + 1)).map (Text.between text) := by
    rw [substrings_eq, String.length_toList]
  refine ⟨spans (text.length + 1), spans_ascends _, members, listed, ?_, ?_, ?_⟩
  · rw [listed, List.length_cons, List.length_map, length_spans]
  · intro span member
    obtain ⟨ordered, inside⟩ := (members span).mp member
    exact Text.exists_cut ordered inside
  · intro empty
    subst empty
    rfl

/-- Characters of one, two and three bytes. -/
theorem substrings_enumerated_wide : Text.Cut "aé€" (1, 3) 1 6 ∧
    substrings "aé€" = ["", "a", "aé", "aé€", "é", "é€", "€"] := by
  obtain ⟨pairs, _, members, _, _, cuts, _⟩ := substrings_enumerated "aé€"
  obtain ⟨first, last, cut⟩ := cuts (1, 3) ((members _).mpr ⟨by decide, by decide⟩)
  obtain rfl : 1 = first := Option.some.inj cut.first_eq
  obtain rfl : 6 = last := Option.some.inj cut.last_eq
  exact ⟨cut, by decide +kernel⟩

end PatternNfa
