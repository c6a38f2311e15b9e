import Remedy.Proofs.Finding.Removal
import Remedy.Proofs.Text.Terminated
import Remedy.Proofs.Text.Utf8

/-!
# Findings in a file that grows

A finding is recognised by the text of its lines, their newlines included, and not by where they
are.  So it is recognised when lines are put in above it and text is added behind the end of its
file, unless it reaches to a last line without a newline, which then is no longer the last.
-/

namespace Remedy

/-- The lines of a window stay the same when lines are put in above it and behind it. -/
theorem drop_take_insert {α : Type} {above block below more : List α} {start stop : Nat}
    (hstart : above.length ≤ start) (hstop : stop ≤ above.length + below.length) :
    ((above ++ (block ++ (below ++ more))).take (stop + block.length)).drop
        (start + block.length) = ((above ++ below).take stop).drop start := by
  obtain ⟨skip, rfl⟩ := Nat.exists_eq_add_of_le hstart
  have hplace : above.length + skip + block.length = above.length + (block.length + skip) := by
    omega
  have hlength : stop + block.length - (above.length + (block.length + skip)) =
      stop - (above.length + skip) := by
    omega
  rw [List.drop_take, List.drop_take, hplace, hlength, List.drop_length_add_append,
    List.drop_length_add_append, List.drop_length_add_append]
  by_cases hskip : skip ≤ below.length
  · rw [List.drop_append_of_le_length hskip, List.take_append_of_le_length]
    rw [List.length_drop]
    omega
  · rw [show stop - (above.length + skip) = 0 by omega, List.take_zero, List.take_zero]

/--
A file that grows: a block of whole lines is put in behind some of its lines, and text on new lines
at its end, behind the newline of its last line if that has none.
-/
structure Growth where
  above : List UInt8
  block : List UInt8
  below : List UInt8
  added : List UInt8
  above_whole : Text.IsWhole 10 above
  block_whole : Text.IsWhole 10 block
  added_apart : added = [] ∨ Text.IsWhole 10 (above ++ below) ∨ added.head? = some 10

namespace Growth

/-- The bytes of the file at first. -/
def before (growth : Growth) : List UInt8 :=
  growth.above ++ growth.below

/-- The bytes of the file when it has grown. -/
def after (growth : Growth) : List UInt8 :=
  growth.above ++ (growth.block ++ (growth.below ++ growth.added))

/-- The lines of some bytes. -/
def linesOf (bytes : List UInt8) : List (List UInt8) :=
  Text.terminatedLines 10 bytes

/-- How many lines are put in. -/
def gained (growth : Growth) : Nat :=
  (linesOf growth.block).length

end Growth

namespace Finding

/-- The finding as many lines further down. -/
def movedDown (finding : Finding) (count : Nat) : Finding :=
  { finding with
    start := { finding.start with line := finding.start.line + count }
    stop := { finding.stop with line := finding.stop.line + count } }

end Finding

/-- A path leads to a file with the given bytes. -/
def Disk.Holds (disk : Disk) (path : Path) (bytes : List UInt8) : Prop :=
  ∃ location content, disk.resolve path = .ok (location, .file content) ∧ content.toBytes = bytes

/-- A finding lies in a file below the place where lines are put in, before the file grows. -/
structure Growth.Carries (growth : Growth) (before now : Disk) (root : Path) (finding : Finding) :
    Prop where
  before : before.Holds (root.join finding.path) growth.before
  now : now.Holds (root.join finding.path) growth.after
  below : (Growth.linesOf growth.above).length < finding.start.line
  ordered : finding.start.line ≤ finding.stop.line
  within : finding.stop.line ≤ (Growth.linesOf growth.before).length

namespace Growth

theorem linesOf_before (growth : Growth) :
    linesOf growth.before = linesOf growth.above ++ linesOf growth.below :=
  Text.terminatedLines_append growth.above_whole growth.below

/-- If nothing is added, or the file is whole, its lines go on behind those that it has. -/
theorem exists_linesOf_after {growth : Growth}
    (h : growth.added = [] ∨ Text.IsWhole 10 growth.before) :
    ∃ more, linesOf growth.after = linesOf growth.above ++
      (linesOf growth.block ++ (linesOf growth.below ++ more)) := by
  unfold linesOf after
  rw [Text.terminatedLines_append growth.above_whole,
    Text.terminatedLines_append growth.block_whole]
  rcases h with hnone | hwhole
  · exact ⟨[], by rw [hnone, List.append_nil, List.append_nil]⟩
  · exact ⟨_, by rw [Text.terminatedLines_append hwhole.of_append]⟩

/-- Else its last line gets a newline, and the lines that are added come behind it. -/
theorem exists_last_of_not {growth : Growth} (hadded : growth.added ≠ [])
    (hopen : ¬Text.IsWhole 10 growth.before) :
    ∃ front last more, linesOf growth.below = front ++ [last] ∧
      linesOf growth.after = linesOf growth.above ++
        (linesOf growth.block ++ (front ++ (last ++ [10]) :: more)) := by
  obtain ⟨front, last, hbelow, hwhole, hfree⟩ := Text.exists_whole_append 10 growth.below
  have hlast : last ≠ [] := by
    rintro rfl
    rw [List.append_nil] at hbelow
    exact hopen (growth.above_whole.append (hbelow ▸ hwhole))
  obtain ⟨text, htext⟩ : ∃ text, growth.added = 10 :: text := by
    rcases growth.added_apart with hnone | hwhole | hhead
    · exact absurd hnone hadded
    · exact absurd hwhole hopen
    · exact List.head?_eq_some_iff.mp hhead
  unfold linesOf after
  rw [Text.terminatedLines_append growth.above_whole,
    Text.terminatedLines_append growth.block_whole, hbelow, htext, List.append_assoc,
    Text.terminatedLines_append hwhole, Text.terminatedLines_append hwhole,
    Text.terminatedLines_of_free hlast hfree, Text.terminatedLines_append_cons hfree]
  exact ⟨_, last, _, rfl, rfl⟩

end Growth

namespace Finding

/-- A finding in a file that can be read has the lines from its first to its last. -/
theorem lines_eq_ok {finding : Finding} {disk : Disk} {root : Path} {location : Location}
    {content : Content} (hstart : 0 < finding.start.line)
    (hfile : disk.resolve (root.join finding.path) = .ok (location, .file content)) :
    finding.lines disk root =
      .ok (linesWithin content finding.start.line finding.stop.line) := by
  rw [lines, if_neg (by omega), hfile]

/-- Fingerprints of one rule and one path are the same just if their lines are. -/
theorem same_marked_iff {finding other : Finding} (hrule : finding.rule = other.rule)
    (hpath : finding.path = other.path) {old new : List (List Char)} :
    (finding.marked old).same (other.marked new) = true ↔ old = new := by
  rw [same_marked, hrule, hpath, beq_self_eq_true, Path.same, beq_self_eq_true, Bool.true_and,
    Bool.true_and, beq_iff_eq]

end Finding

namespace Growth

open Findings (diskOf onLine)

variable {growth : Growth} {before now : Disk} {root : Path} {finding : Finding}

/-- The lines from the first of a finding to its last. -/
def window (finding : Finding) (lines : List (List UInt8)) : List (List UInt8) :=
  (lines.take finding.stop.line).drop (finding.start.line - 1)

theorem Carries.exists_lines (h : growth.Carries before now root finding) :
    finding.lines before root =
        .ok ((window finding (linesOf growth.before)).map Text.decodeLossy) ∧
      (finding.movedDown growth.gained).lines now root =
        .ok ((window (finding.movedDown growth.gained) (linesOf growth.after)).map
          Text.decodeLossy) := by
  have hbelow := h.below
  obtain ⟨location, content, hfile, hbytes⟩ := h.before
  obtain ⟨place, grown, hgrown, hlonger⟩ := h.now
  have hmoved : 0 < (finding.movedDown growth.gained).start.line :=
    Nat.lt_of_lt_of_le (by omega) (Nat.le_add_right finding.start.line _)
  rw [Finding.lines_eq_ok (by omega) hfile, Finding.lines_eq_ok hmoved hgrown,
    Finding.linesWithin, Finding.linesWithin, hbytes, hlonger]
  exact ⟨rfl, rfl⟩

/-- A window over lines that stay is moved down with them. -/
theorem window_movedDown {above below more : List (List UInt8)}
    (habove : above.length < finding.start.line)
    (hwithin : finding.stop.line ≤ above.length + below.length) :
    window (finding.movedDown growth.gained)
        (above ++ (linesOf growth.block ++ (below ++ more))) =
      window finding (above ++ below) := by
  have hstart : (finding.movedDown growth.gained).start.line - 1 =
      finding.start.line - 1 + (linesOf growth.block).length := by
    show finding.start.line + growth.gained - 1 = _
    rw [gained]
    omega
  unfold window
  rw [hstart]
  exact drop_take_insert (by omega) hwithin

/-- A window does not show what is behind it. -/
theorem window_append {lines more : List (List UInt8)}
    (hwithin : finding.stop.line ≤ lines.length) :
    window finding (lines ++ more) = window finding lines := by
  unfold window
  rw [List.take_append_of_le_length hwithin]

/-- The last line of a window over all lines. -/
theorem window_concat {lines : List (List UInt8)} {last : List UInt8}
    (hordered : finding.start.line ≤ finding.stop.line)
    (hstop : finding.stop.line = lines.length + 1) :
    window finding (lines ++ [last]) = lines.drop (finding.start.line - 1) ++ [last] := by
  unfold window
  rw [hstop, List.take_of_length_le (by simp), List.drop_append_of_le_length (by omega)]

/-- If the lines of the file stay, so do those of the finding. -/
theorem Carries.window_eq (h : growth.Carries before now root finding)
    (hkept : growth.added = [] ∨ Text.IsWhole 10 growth.before) :
    window (finding.movedDown growth.gained) (linesOf growth.after) =
      window finding (linesOf growth.before) := by
  have hwithin := h.within
  rw [linesOf_before, List.length_append] at hwithin
  obtain ⟨more, hafter⟩ := exists_linesOf_after hkept
  rw [hafter, linesOf_before, window_movedDown h.below hwithin]

/-- If the last line of the file gets a newline, the finding's lines stay just if it is not one. -/
theorem Carries.window_eq_iff (h : growth.Carries before now root finding)
    (hadded : growth.added ≠ []) (hopen : ¬Text.IsWhole 10 growth.before) :
    (window finding (linesOf growth.before)).map Text.decodeLossy =
        (window (finding.movedDown growth.gained) (linesOf growth.after)).map Text.decodeLossy ↔
      finding.stop.line < (linesOf growth.before).length := by
  have hbelow := h.below
  have hwithin := h.within
  obtain ⟨front, last, more, hlast, hafter⟩ := exists_last_of_not hadded hopen
  have hbefore : linesOf growth.before = (linesOf growth.above ++ front) ++ [last] := by
    rw [linesOf_before, hlast, List.append_assoc]
  rw [hbefore, List.length_append, List.length_append, List.length_singleton] at hwithin ⊢
  rw [hafter]
  rcases Nat.lt_or_ge finding.stop.line
    ((linesOf growth.above).length + front.length + 1) with hinner | hend
  · -- the finding ends above the last line
    rw [window_movedDown hbelow (by omega), window_append (by rw [List.length_append]; omega)]
    exact iff_of_true rfl hinner
  · -- the last line of the finding differs by the newline
    have hstop : finding.stop.line = (linesOf growth.above ++ front).length + 1 := by
      rw [List.length_append]
      omega
    rw [List.append_cons front (last ++ [10]) more, window_movedDown hbelow (by simp; omega),
      ← List.append_assoc, window_concat h.ordered hstop, window_concat h.ordered hstop]
    refine iff_of_false (fun hsame => ?_) (Nat.not_lt.mpr hend)
    rw [List.map_append, List.map_append] at hsame
    have hline := List.append_cancel_left hsame
    rw [List.map_singleton, List.map_singleton, Text.decodeLossy_append_newline,
      List.singleton_inj] at hline
    exact absurd (congrArg List.length hline) (by simp)

/--
A finding is recognised when its file grows, unless it reaches to the last line, that line has no
newline and gets one because of what is added.
-/
theorem exists_same_iff (h : growth.Carries before now root finding) :
    ∃ old new, finding.fingerprint before root = .ok old ∧
      (finding.movedDown growth.gained).fingerprint now root = .ok new ∧
      (old.same new = true ↔ growth.added = [] ∨ Text.IsWhole 10 growth.before ∨
        finding.stop.line < (linesOf growth.before).length) := by
  obtain ⟨hold, hnew⟩ := h.exists_lines
  refine ⟨_, _, Finding.fingerprint_eq_ok_iff.mpr ⟨_, hold, rfl⟩,
    Finding.fingerprint_eq_ok_iff.mpr ⟨_, hnew, rfl⟩, ?_⟩
  refine (Finding.same_marked_iff rfl rfl).trans ?_
  rw [← or_assoc]
  by_cases hkept : growth.added = [] ∨ Text.IsWhole 10 growth.before
  · rw [h.window_eq hkept]
    exact iff_of_true rfl (.inl hkept)
  · obtain ⟨hadded, hopen⟩ := not_or.mp hkept
    rw [or_iff_right hkept]
    exact h.window_eq_iff hadded hopen

/-- To a line without a newline another one is added. -/
def ofOpenLine : Growth where
  above := []
  block := []
  below := "foo".toUTF8.toList
  added := "\nbar\n".toUTF8.toList
  above_whole := by decide
  block_whole := by decide
  added_apart := by decide +kernel

theorem not_forall_carries_same : ¬∀ (growth : Growth) (before now : Disk) (root : Path)
    (finding : Finding), growth.Carries before now root finding →
      ∃ old new, finding.fingerprint before root = .ok old ∧
        (finding.movedDown growth.gained).fingerprint now root = .ok new ∧
        old.same new = true := by
  intro h
  obtain ⟨old, new, hold, hnew, hsame⟩ :=
    h ofOpenLine (diskOf "foo") (diskOf "foo\nbar\n") ⟨"/"⟩ (onLine "r" 1)
      { before := ⟨["a.txt"], .text "foo", by decide +kernel, by decide +kernel⟩
        now := ⟨["a.txt"], .text "foo\nbar\n", by decide +kernel, by decide +kernel⟩
        below := by decide +kernel
        ordered := by decide
        within := by decide +kernel }
  have hshort : (onLine "r" 1).lines (diskOf "foo") ⟨"/"⟩ = .ok ["foo".toList] := by
    decide +kernel
  have hlong : ((onLine "r" 1).movedDown ofOpenLine.gained).lines (diskOf "foo\nbar\n") ⟨"/"⟩ =
      .ok ["foo\n".toList] := by
    decide +kernel
  rw [Finding.fingerprint_eq_ok_iff.mpr ⟨_, hshort, rfl⟩] at hold
  rw [Finding.fingerprint_eq_ok_iff.mpr ⟨_, hlong, rfl⟩] at hnew
  cases hold
  cases hnew
  have hlines := (Finding.same_marked_iff rfl rfl).mp hsame
  exact absurd hlines (by decide)

/-- Lines are put in above the last but one line, and the last one gets its newline. -/
def ofOpenEnd : Growth where
  above := "top\n".toUTF8.toList
  block := "new\nlines\n".toUTF8.toList
  below := "old\nlast".toUTF8.toList
  added := "\nend".toUTF8.toList
  above_whole := by decide +kernel
  block_whole := by decide +kernel
  added_apart := by decide +kernel

theorem exists_same_ofOpenEnd :
    ofOpenEnd.gained = 2 ∧ ∃ old new,
      (onLine "r" 2).fingerprint (diskOf "top\nold\nlast") ⟨"/"⟩ = .ok old ∧
      ((onLine "r" 2).movedDown 2).fingerprint (diskOf "top\nnew\nlines\nold\nlast\nend") ⟨"/"⟩ =
        .ok new ∧
      old.same new = true := by
  have hgained : ofOpenEnd.gained = 2 := by
    decide +kernel
  have hcarries : ofOpenEnd.Carries (diskOf "top\nold\nlast")
      (diskOf "top\nnew\nlines\nold\nlast\nend") ⟨"/"⟩ (onLine "r" 2) :=
    { before := ⟨["a.txt"], .text "top\nold\nlast", by decide +kernel, by decide +kernel⟩
      now := ⟨["a.txt"], .text "top\nnew\nlines\nold\nlast\nend", by decide +kernel,
        by decide +kernel⟩
      below := by decide +kernel
      ordered := by decide
      within := by decide +kernel }
  obtain ⟨old, new, hold, hnew, hsame⟩ := exists_same_iff hcarries
  rw [hgained] at hnew
  exact ⟨hgained, old, new, hold, hnew, hsame.mpr (.inr (.inr (by decide +kernel)))⟩

end Growth

end Remedy
