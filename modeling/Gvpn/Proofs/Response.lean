import Gvpn.Data.Lines
import Gvpn.Fronter.Range

/-! Responses that are taken apart and put together again. -/

namespace Gvpn

open List Option

structure CleanField (field : Text × Text) : Prop where
  nameLine : '\n' ∉ field.1
  nameColon : ':' ∉ field.1
  nameTrimmed : trim field.1 = field.1
  valueLine : '\n' ∉ field.2
  valueTrimmed : trim field.2 = field.2

theorem headerLines_clean {lines : List Bytes} {headers : List (Text × Text)}
    (oneLine : ∀ line ∈ lines, 10 ∉ line) (read : headerLines lines = some headers) :
    ∀ field ∈ headers, CleanField field := by
  induction lines generalizing headers with
  | nil =>
    cases read
    simp
  | cons line rest ih =>
    obtain ⟨here, later⟩ := List.forall_mem_cons.mp oneLine
    unfold headerLines at read
    cases decoded : fromUtf8 line with
    | none => simp [decoded] at read
    | some text =>
      cases others : headerLines rest with
      | none => simp [decoded, others] at read
      | some fields =>
        have clean := ih later others
        simp only [decoded, others] at read
        cases split : splitOnce ':' (trimEndMatches (· = '\r') text) with
        | none =>
          simp only [split, some.injEq] at read
          exact read ▸ clean
        | some parts =>
          obtain ⟨name, value⟩ := parts
          simp only [split, some.injEq] at read
          subst read
          obtain ⟨whole, colonFree⟩ := eq_append_of_splitOnce split
          have textLine : '\n' ∉ text := by
            intro member
            have inside := mem_toUtf8_of_mem member (by decide)
            rw [toUtf8_of_fromUtf8 decoded] at inside
            exact here inside
          have partLine : '\n' ∉ name ++ ':' :: value := by
            intro member
            rw [← whole] at member
            unfold trimEndMatches at member
            rw [mem_reverse] at member
            have reversed := (dropWhile_sublist _).subset member
            exact textLine (List.mem_reverse.mp reversed)
          rw [mem_append, mem_cons, not_or, not_or] at partLine
          refine List.forall_mem_cons.mpr ⟨?_, clean⟩
          exact
            { nameLine := fun member => partLine.1 (mem_of_mem_trim member)
              nameColon := fun member => colonFree (mem_of_mem_trim member)
              nameTrimmed := trim_trim name
              valueLine := fun member => partLine.2.2 (mem_of_mem_trim member)
              valueTrimmed := trim_trim value }

theorem splitResponse_clean {raw body : Bytes} {code : Nat} {headers : List (Text × Text)}
    (split : splitResponse raw = some (code, headers, body)) :
    ∀ field ∈ headers, CleanField field := by
  obtain ⟨head, first, lines, -, -, parts, -, -, read⟩ := splitResponse_eq_some_iff.mp split
  refine headerLines_clean ?_ read
  intro line member
  have inside : line ∈ head.splitOn 10 := parts ▸ mem_cons_of_mem _ member
  exact not_mem_of_mem_splitOn inside

def crlfHead (first : Bytes) (lines : List Bytes) : Bytes :=
  first ++ [13, 10] ++ lines.flatMap (· ++ [13, 10]) ++ [13, 10]

def rawLines (first : Bytes) : List Bytes → List Bytes
  | [] => [first]
  | line :: rest => (first ++ [13]) :: rawLines line rest

theorem cut_crlfHead {first : Bytes} {lines : List Bytes} (oneLine : ∀ line ∈ first :: lines,
    10 ∉ line) (solid : ∀ line ∈ lines, line ≠ []) (body : Bytes) :
    ∃ head, cut headEnd (crlfHead first lines ++ body) = some (head, body) ∧
      head.splitOn 10 = rawLines first lines ∧ head ++ headEnd = crlfHead first lines := by
  have marks : (13 : UInt8) ≠ 10 := by decide
  induction lines generalizing first with
  | nil =>
    have free := oneLine first mem_cons_self
    refine ⟨first, ?_, ?_, ?_⟩
    · have found := cut_empty_line marks (unbroken_of_not_mem (by simp) free) body
      simpa [crlfHead, headEnd] using found
    · exact splitOn_eq_singleton free
    · simp [crlfHead, headEnd]
  | cons line rest ih =>
    obtain ⟨free, later⟩ := List.forall_mem_cons.mp oneLine
    obtain ⟨lineSolid, restSolid⟩ := List.forall_mem_cons.mp solid
    obtain ⟨head, found, parts, whole⟩ := ih later restSolid
    have shape : crlfHead first (line :: rest) = first ++ 13 :: 10 :: crlfHead line rest := by
      simp [crlfHead]
    have further : ¬ [13, 10] <+: crlfHead line rest ++ body := by
      cases line with
      | nil => exact absurd rfl lineSolid
      | cons byte tail =>
        have unbroken : Unbroken 13 10 (byte :: tail) :=
          unbroken_of_not_mem (by simp) (later (byte :: tail) mem_cons_self)
        have apart := unbroken.not_opened marks
          (10 :: (rest.flatMap (· ++ [13, 10]) ++ [13, 10] ++ body))
        simpa [crlfHead] using apart
    refine ⟨first ++ 13 :: 10 :: head, ?_, ?_, ?_⟩
    · have cutHere := cut_line_end marks (unbroken_of_not_mem (by simp) free) further
      rw [shape, append_assoc, cons_append, cons_append, headEnd, cutHere,
        ← headEnd, found]
      rfl
    · have firstFree : 10 ∉ first ++ [13] := by simp [free]
      have joined : first ++ 13 :: 10 :: head = (first ++ [13]) ++ 10 :: head := by simp
      rw [joined, List.splitOn, splitOnP_append_cons _ _ (by simp)]
      have front : (first ++ [13]).splitOnP (fun byte => byte == 10) = [first ++ [13]] :=
        splitOn_eq_singleton firstFree
      rw [front, singleton_append, rawLines]
      exact congrArg _ parts
    · rw [shape, ← whole]
      simp

def fieldBytes (field : Text × Text) : Bytes := toUtf8 (field.1 ++ lit ": " ++ field.2)

theorem assembleHead_eq (statusLine : Text) (fields : List (Text × Text)) :
    assembleHead statusLine fields = crlfHead (toUtf8 statusLine) (fields.map fieldBytes) := by
  have ends : toUtf8 ['\r', '\n'] = [13, 10] := by decide
  have lines : toUtf8 (fields.flatMap fun field => headerLine field.1 field.2) =
      (fields.map fieldBytes).flatMap (· ++ [13, 10]) := by
    induction fields with
    | nil => rfl
    | cons field rest ih =>
      rw [flatMap_cons, toUtf8_append, ih, map_cons, flatMap_cons]
      simp only [headerLine, fieldBytes, toUtf8_append, ends]
  simp only [assembleHead, toUtf8_append, lines, ends, crlfHead]

theorem splitOnce_field {field : Text × Text} (clean : CleanField field) {ending : Text}
    (ended : ending = [] ∨ ending = ['\r']) :
    (splitOnce ':' (trimEndMatches (· = '\r') (field.1 ++ lit ": " ++ field.2 ++ ending))).map
      (fun parts => (trim parts.1, trim parts.2)) = some field := by
  have value : trimEndMatches (· = '\r') (field.2 ++ ending) = field.2 := by
    have kept := trimEndMatches_of_trim clean.valueTrimmed
    rcases ended with rfl | rfl
    · rwa [append_nil]
    · rw [trimEndMatches_concat (by simp), kept]
  have shape : field.1 ++ lit ": " ++ field.2 ++ ending =
      (field.1 ++ [':']) ++ ' ' :: (field.2 ++ ending) := by simp [lit]
  have blank : trim (' ' :: field.2) = field.2 := by
    have start : trimStart (' ' :: field.2) = trimStart field.2 := by
      simp [trimStart, show isBlank ' ' = true by decide]
    exact clean.valueTrimmed
  rw [shape, trimEndMatches_append (by decide), value, append_assoc, singleton_append,
    splitOnce_append clean.nameColon]
  simp [clean.nameTrimmed, blank]

theorem headerLines_rawLines {field : Text × Text} {fields : List (Text × Text)}
    (clean : ∀ other ∈ field :: fields, CleanField other) :
    headerLines (rawLines (fieldBytes field) (fields.map fieldBytes)) = some (field :: fields) := by
  induction fields generalizing field with
  | nil =>
    have read := splitOnce_field (clean field mem_cons_self) (.inl rfl)
    rw [append_nil] at read
    obtain ⟨parts, split, same⟩ := Option.map_eq_some_iff.mp read
    rw [map_nil, rawLines, headerLines, fieldBytes, fromUtf8_toUtf8]
    simp only [headerLines, split, same]
  | cons next rest ih =>
    obtain ⟨here, later⟩ := List.forall_mem_cons.mp clean
    obtain ⟨parts, split, same⟩ := Option.map_eq_some_iff.mp (splitOnce_field here (.inr rfl))
    have line : fieldBytes field ++ [13] =
        toUtf8 (field.1 ++ lit ": " ++ field.2 ++ ['\r']) := by
      have carriage : toUtf8 ['\r'] = [13] := by decide
      rw [toUtf8_append, carriage, fieldBytes]
    rw [map_cons, rawLines, headerLines, line, fromUtf8_toUtf8, ih later]
    simp only [split, same]

theorem splitResponse_assembleHead {statusLine : Text} {fields : List (Text × Text)} {code : Nat}
    (oneLine : '\n' ∉ statusLine) (number : statusCode statusLine = some code)
    (clean : ∀ field ∈ fields, CleanField field) (body : Bytes) :
    splitResponse (assembleHead statusLine fields ++ body) = some (code, fields, body) ∧
      ∃ head, cut headEnd (assembleHead statusLine fields ++ body) = some (head, body) ∧
        head ++ headEnd = assembleHead statusLine fields := by
  have lineFree : ∀ text : Text, '\n' ∉ text → 10 ∉ toUtf8 text := fun text free member =>
    free (mem_of_mem_toUtf8 member (by decide))
  have oneLines : ∀ line ∈ toUtf8 statusLine :: fields.map fieldBytes, 10 ∉ line := by
    refine List.forall_mem_cons.mpr ⟨lineFree _ oneLine, ?_⟩
    intro line member
    obtain ⟨field, inside, rfl⟩ := List.mem_map.mp member
    have tidy := clean field inside
    refine lineFree _ ?_
    simp [lit, tidy.nameLine, tidy.valueLine]
  have solid : ∀ line ∈ fields.map fieldBytes, line ≠ [] := by
    intro line member
    obtain ⟨field, inside, rfl⟩ := List.mem_map.mp member
    have colon : (58 : UInt8) ∈ fieldBytes field :=
      mem_toUtf8_of_mem (show ':' ∈ field.1 ++ lit ": " ++ field.2 by simp [lit]) (by decide)
    exact ne_nil_of_mem colon
  obtain ⟨head, found, parts, whole⟩ := cut_crlfHead oneLines solid body
  rw [← assembleHead_eq] at found whole
  refine ⟨?_, head, found, whole⟩
  rw [splitResponse_eq_some_iff]
  cases fields with
  | nil =>
    exact ⟨head, toUtf8 statusLine, [], statusLine, found, parts, fromUtf8_toUtf8 _, number, rfl⟩
  | cons field rest =>
    have line : toUtf8 statusLine ++ [13] = toUtf8 (statusLine ++ ['\r']) := by
      have carriage : toUtf8 ['\r'] = [13] := by decide
      rw [toUtf8_append, carriage]
    have trimmed : statusCode (statusLine ++ ['\r']) = statusCode statusLine := by
      simp only [statusCode]
      rw [trimEndMatches_concat (by simp)]
    refine ⟨head, toUtf8 (statusLine ++ ['\r']), _, statusLine ++ ['\r'], found, ?_,
      fromUtf8_toUtf8 _, trimmed.trans number, headerLines_rawLines clean⟩
    rw [parts, map_cons, rawLines, line]

end Gvpn
