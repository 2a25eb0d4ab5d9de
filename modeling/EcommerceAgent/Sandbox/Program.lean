/-
# The program that reads a file

`_read_file_sandbox_code` of `agent/tools/registry.py`.  The program is written with an f-string
that is not raw, so that the `\n` of its line `emit("\n".join(parts))` becomes a line break inside a
literal with one quote.  The two literals are written by `json.dumps`, whose surrogates Python does
not join, and the stored file has been stripped once more than the opened one.
-/
import EcommerceAgent.Sandbox.RelativePath
import EcommerceAgent.Lib.PyLexer

open EcommerceAgent.Lib EcommerceAgent.Files

namespace EcommerceAgent.Sandbox

/-- The text between the expressions of an f-string: doubled braces are one brace, and `\n`, the
only escape sequence of the template, is a line break. -/
def fstringText : Str → Str
  | '\\' :: 'n' :: rest => '\n' :: fstringText rest
  | '\x7b' :: '\x7b' :: rest => '\x7b' :: fstringText rest
  | '\x7d' :: '\x7d' :: rest => '\x7d' :: fstringText rest
  | c :: rest => c :: fstringText rest
  | [] => []

/-- The lines of the template before the path. -/
def templateHead : List String :=
  ["",
    "from pathlib import Path",
    "",
    "path = Path(\"/workspace/input\") / "]

/-- Between the path and the instruction. -/
def templateMiddle : List String :=
  ["",
    "instruction = "]

/-- Behind the instruction. -/
def templateTail : List String :=
  ["",
    "suffix = path.suffix.lower()",
    "",
    "def emit(text):",
    "    print(str(text)[:120000])",
    "",
    "if suffix in \x7b\x7b\".txt\", \".md\", \".csv\", \".json\", \".log\"\x7d\x7d:",
    "    emit(path.read_text(encoding=\"utf-8\", errors=\"replace\"))",
    "elif suffix in \x7b\x7b\".xlsx\", \".xls\"\x7d\x7d:",
    "    import pandas as pd",
    "    df = pd.read_excel(path)",
    "    parts = [",
    "        f\"文件: \x7b\x7bpath.name\x7d\x7d\",",
    "        f\"行数: \x7b\x7blen(df)\x7d\x7d, 列数: \x7b\x7blen(df.columns)\x7d\x7d\",",
    "        \"列名: \" + \", \".join([str(item) for item in df.columns]),",
    "        \"[前5行数据预览]\",",
    "        df.head().to_string(index=False),",
    "        \"[统计描述]\",",
    "        df.describe(include=\"all\").to_string(),",
    "    ]",
    "    emit(\"\\n\".join(parts))",
    "else:",
    "    try:",
    "        emit(path.read_text(encoding=\"utf-8\", errors=\"replace\"))",
    "    except Exception:",
    "        data = path.read_bytes()",
    "        emit(f\"二进制文件 \x7b\x7bpath.name\x7d\x7d，大小 \x7b\x7blen(data)\x7d\x7d bytes，" ++
      "当前沙箱不解析该格式。\")",
    ""]

/-- The text of a piece of the template. -/
def piece (lines : List String) : Str :=
  fstringText (['\n'].intercalate (lines.map String.toList))

/-- `_read_file_sandbox_code`. -/
def readFileSandboxCode (relativePath instruction : Str) : Str :=
  piece templateHead ++ JsonText.dumpsString (String.ofList (slashes relativePath)) ++
    piece templateMiddle ++ JsonText.dumpsString (String.ofList (instruction.take 500)) ++
    piece templateTail

/-- The names below the workspace under which `write_input_files` stores the file. -/
def storedNames (relativePath : Str) : Option (List Str) :=
  match (sandboxFilePath ("input/".toList ++ relativePath)).map validateRelativePath with
  | some (.ok path) => some (Path.names path)
  | _ => none

/-- The names below the workspace that the program opens: `Path("/workspace/input") / …`. -/
def openedNames (relativePath : Str) : List Str :=
  Path.names ("input/".toList ++ slashes relativePath)

/-- The program is one, its literals denote the path and the instruction, and it opens the stored
file. -/
structure ReadsGivenFile (relativePath instruction : Str) : Prop where
  valid : PyLexer.Tokenizes (readFileSandboxCode relativePath instruction)
  path : PyLexer.denoted ((slashes relativePath).flatMap JsonText.escapeChar) =
    some ((slashes relativePath).map Char.toNat)
  instruction : PyLexer.denoted ((instruction.take 500).flatMap JsonText.escapeChar) =
    some ((instruction.take 500).map Char.toNat)
  opens : storedNames relativePath = some (openedNames relativePath)

/-! ### The literals -/

/-- A literal denotes the text when all its characters are in the basic plane. -/
theorem literal_denotes_iff {text : Str} :
    PyLexer.denoted (text.flatMap JsonText.escapeChar) = some (text.map Char.toNat) ↔
      ∀ c ∈ text, c.toNat < 0x10000 := by
  rw [PyLexer.denoted_body, Option.some_inj]
  exact PyLexer.flatMap_utf16_eq_iff

/-! ### The stored and the opened file -/

section Stored

variable {parts front : List Str} {last : Str}

lemma split_joined (h : ∀ part ∈ parts, '/' ∉ part) (hne : parts ≠ []) :
    Path.split (Path.joined parts) = parts := by
  induction parts with
  | nil => exact absurd rfl hne
  | cons part parts ih =>
    obtain ⟨hpart, hparts⟩ := List.forall_mem_cons.mp h
    by_cases hrest : parts = []
    · subst hrest
      rw [Path.joined, List.intercalate_singleton, Path.split_of_notMem hpart]
    · rw [Path.joined_cons hrest, Path.split_append, Path.split_of_notMem hpart,
        ih hparts hrest, List.singleton_append]

lemma notMem_joined {c : Char} (hslash : c ≠ '/') (h : ∀ part ∈ parts, '/' ∉ part ∧ c ∉ part) :
    c ∉ Path.joined parts := by
  intro hc
  have hne : parts ≠ [] := by
    rintro rfl
    cases hc
  obtain ⟨part, hpart, hmem⟩ := Path.exists_mem_split hc hslash
  rw [split_joined (fun part hpart => (h part hpart).1) hne] at hpart
  exact (h part hpart).2 hmem

/-- A path whose last part does not end with a blank is not changed by another check. -/
lemma normalized_joined (h : IsChecked (front ++ [last]))
    (hlast : last.rdropWhile Text.isSpace = last) :
    normalized (Path.joined (front ++ [last])) = Path.joined (front ++ [last]) := by
  have hback : '\\' ∉ Path.joined (front ++ [last]) :=
    notMem_joined (by decide) fun part hpart => ⟨h.slash part hpart, h.backslash part hpart⟩
  rw [normalized, slashes_of_notMem hback, strip_joined h, hlast]

lemma checkedParts_joined (h : IsChecked (front ++ [last]))
    (hlast : last.rdropWhile Text.isSpace = last) :
    checkedParts (Path.joined (front ++ [last])) = front ++ [last] := by
  rw [checkedParts, normalized_joined h hlast,
    split_joined h.slash (List.append_ne_nil_of_right_ne_nil _ (List.cons_ne_nil _ _)),
    List.filter_eq_self]
  exact fun part hpart => decide_eq_true (h.nonempty part hpart)

/-- The checked path below `input`. -/
lemma isChecked_input (h : IsChecked parts) : IsChecked ("input".toList :: parts) := by
  refine ⟨?_, ?_, ?_, ?_, 'i', "nput".toList, parts, rfl, by decide⟩
  · exact List.forall_mem_cons.mpr ⟨by decide, h.slash⟩
  · exact List.forall_mem_cons.mpr ⟨by decide, h.backslash⟩
  · exact List.forall_mem_cons.mpr ⟨by decide, h.nonempty⟩
  · exact List.not_mem_cons_of_ne_of_not_mem (by decide) h.parent

/-- A checked path is opened where it was stored, unless its last part ends with a blank. -/
theorem storedNames_eq_openedNames (h : IsChecked (front ++ [last]))
    (hlast : last.rdropWhile Text.isSpace = last) (hdenied : ∀ part ∈ front ++ [last], ¬Denied part)
    (hlength : (Path.joined (front ++ [last])).length ≤ 254) :
    storedNames (Path.joined (front ++ [last])) =
      some (openedNames (Path.joined (front ++ [last]))) := by
  have hparts : front ++ [last] ≠ [] := List.append_ne_nil_of_right_ne_nil _ (List.cons_ne_nil _ _)
  have hback : '\\' ∉ Path.joined (front ++ [last]) :=
    notMem_joined (by decide) fun part hpart => ⟨h.slash part hpart, h.backslash part hpart⟩
  have hpath : "input/".toList ++ Path.joined (front ++ [last]) =
      Path.joined (("input".toList :: front) ++ [last]) := by
    have hslash : "input/".toList = "input".toList ++ ['/'] := by decide
    rw [hslash, List.append_assoc, List.singleton_append, List.cons_append, Path.joined_cons hparts]
  have hinput : IsChecked (("input".toList :: front) ++ [last]) := isChecked_input h
  have hnormalized := normalized_joined hinput hlast
  have hchecked := checkedParts_joined hinput hlast
  have hne : Path.joined (("input".toList :: front) ++ [last]) ≠ [] := by
    rw [← hpath]
    exact List.cons_ne_nil _ _
  have hrelative : isAbsolute (Path.joined (("input".toList :: front) ++ [last])) = false := by
    rw [isAbsolute, split_joined hinput.slash (List.cons_ne_nil _ _), ← hpath]
    rfl
  have hlength' : (Path.joined (("input".toList :: front) ++ [last])).length ≤ 260 := by
    rw [← hpath, List.length_append]
    exact Nat.add_le_add_left hlength 6
  have hfile : sandboxFilePath (Path.joined (("input".toList :: front) ++ [last])) =
      some (Path.joined (("input".toList :: front) ++ [last])) := by
    rw [sandboxFilePath, hnormalized, hchecked, hrelative, if_neg, if_neg]
    · exact not_or.mpr ⟨hne, not_or.mpr ⟨Bool.false_ne_true, hinput.parent⟩⟩
    · have := List.length_pos_iff.mpr hne
      omega
  have hvalid : validateRelativePath (Path.joined (("input".toList :: front) ++ [last])) =
      .ok (Path.joined (("input".toList :: front) ++ [last])) := by
    rw [validateRelativePath, hnormalized, hchecked, hrelative, if_neg hne,
      if_neg Bool.false_ne_true, if_neg hinput.parent, if_neg]
    rintro ⟨part, hpart, hd⟩
    rcases List.mem_cons.mp hpart with rfl | hpart
    · exact absurd hd (by decide)
    · exact hdenied part hpart hd
  rw [storedNames, openedNames, slashes_of_notMem hback, hpath, hfile, Option.map_some, hvalid]

end Stored

/-! ### The program -/

/-- A piece whose first line is empty. -/
lemma piece_cons {lines : List String} (h : lines ≠ []) :
    piece ("" :: lines) = '\n' :: piece lines := by
  obtain ⟨line, rest, rfl⟩ := List.exists_cons_of_ne_nil h
  rw [piece, List.map_cons, List.map_cons, List.intercalate_cons_cons]
  rfl

/-- No escape sequence reaches over the end of a line. -/
lemma fstringText_line (line rest : Str) :
    fstringText (line ++ '\n' :: rest) = fstringText line ++ '\n' :: fstringText rest := by
  fun_induction fstringText line with
  | case1 tail ih => simp [fstringText, ih]
  | case2 tail ih => simp [fstringText, ih]
  | case3 tail ih => simp [fstringText, ih]
  | case4 c tail hn hopen hclose ih =>
    rw [List.cons_append, List.cons_append, ← ih]
    cases tail with
    | nil => rw [List.nil_append, fstringText] <;> simp
    | cons d tail =>
      rw [List.cons_append, fstringText]
      · rintro r rfl h
        exact hn tail rfl (by simp at h; simp [h])
      · rintro r rfl h
        exact hopen tail rfl (by simp at h; simp [h])
      · rintro r rfl h
        exact hclose tail rfl (by simp at h; simp [h])
  | case5 => simp [fstringText]

lemma piece_line {line : String} {rest : List String} (h : rest ≠ []) :
    piece (line :: rest) = fstringText line.toList ++ '\n' :: piece rest := by
  obtain ⟨next, rest, rfl⟩ := List.exists_cons_of_ne_nil h
  rw [piece, List.map_cons, List.map_cons, List.intercalate_cons_cons, List.append_assoc,
    List.singleton_append, fstringText_line]
  rfl

/-- The analysis goes on as before behind lines whose literals are closed. -/
lemma lex_piece_append {lines rest : List String} (hrest : rest ≠ [])
    (h : ∀ line ∈ lines, PyLexer.lex .code (fstringText line.toList ++ ['\n']) = some .code) :
    PyLexer.lex .code (piece (lines ++ rest)) = PyLexer.lex .code (piece rest) := by
  induction lines with
  | nil => rfl
  | cons line lines ih =>
    obtain ⟨hline, hlines⟩ := List.forall_mem_cons.mp h
    rw [List.cons_append, piece_line (List.append_ne_nil_of_right_ne_nil _ hrest),
      List.append_cons, PyLexer.lex_append, hline, Option.bind_some, ih hlines]

/-- The line break inside a literal of the last piece ends the analysis. -/
lemma lex_templateTail : PyLexer.lex .code (piece templateTail) = none := by
  -- the literals are spelled out, since evaluating `toList` is slow
  have hlines : ∀ line ∈ templateTail.take 20,
      PyLexer.lex .code (fstringText line.toList ++ ['\n']) = some .code := by
    simp only [templateTail, List.take_succ_cons, List.take_zero, List.forall_mem_cons]
    refine ⟨?_, ?_, ?_, ?_, ?_, ?_, ?_, ?_, ?_, ?_, ?_, ?_, ?_, ?_, ?_, ?_, ?_, ?_, ?_, ?_, nofun⟩
    all_goals
      rw [String.toList_ofList]
      decide +kernel
  have hbreak : PyLexer.lex .code (fstringText "    emit(\"\\n\".join(parts))".toList) = none := by
    rw [String.toList_ofList]
    decide +kernel
  have hsplit : templateTail = templateTail.take 20 ++
      "    emit(\"\\n\".join(parts))" :: templateTail.drop 21 := rfl
  rw [hsplit, lex_piece_append (List.cons_ne_nil _ _) hlines,
    piece_line (by decide), PyLexer.lex_append, hbreak, Option.bind_none]

/-- The line break inside a literal of the last piece ends the analysis, whatever the path and the
instruction are. -/
lemma lex_readFileSandboxCode (relativePath instruction : Str) :
    PyLexer.lex .code (readFileSandboxCode relativePath instruction) = none := by
  have hhead : PyLexer.lex .code (piece templateHead) = some .code := by
    simp only [templateHead, piece, List.map_cons, List.map_nil]
    repeat rw [String.toList_ofList]
    decide +kernel
  have hmiddle : PyLexer.lex .code (piece templateMiddle) = some .code := by
    simp only [templateMiddle, piece, List.map_cons, List.map_nil]
    repeat rw [String.toList_ofList]
    decide +kernel
  have htail : PyLexer.lex .code (piece templateTail) = none := lex_templateTail
  have hmiddleCons : piece templateMiddle = '\n' :: piece templateMiddle.tail :=
    piece_cons (List.cons_ne_nil _ _)
  have htailCons : piece templateTail = '\n' :: piece templateTail.tail :=
    piece_cons (List.cons_ne_nil _ _)
  have hinstruction : PyLexer.lex .code
      (JsonText.dumpsString (String.ofList (instruction.take 500)) ++ piece templateTail) =
        none := by
    rw [htailCons, PyLexer.lex_dumpsString _ (by decide), ← htailCons, htail]
  rw [readFileSandboxCode, List.append_assoc, List.append_assoc, List.append_assoc,
    PyLexer.lex_append, hhead, Option.bind_some, hmiddleCons, List.cons_append,
    PyLexer.lex_dumpsString _ (by decide), ← List.cons_append, ← hmiddleCons, PyLexer.lex_append,
    hmiddle, Option.bind_some, hinstruction]

lemma not_tokenizes_of_lex {text : Str} (h : PyLexer.lex .code text = none) :
    ¬PyLexer.Tokenizes text := by
  rintro (hcode | hcomment | ⟨quote, hclosed⟩)
  · exact Option.some_ne_none _ (hcode.symm.trans h)
  · exact Option.some_ne_none _ (hcomment.symm.trans h)
  · exact Option.some_ne_none _ (hclosed.symm.trans h)

/-- The generated text is a program for no path and no instruction. -/
theorem not_readsGivenFile (relativePath instruction : Str) :
    ¬ReadsGivenFile relativePath instruction := fun h =>
  not_tokenizes_of_lex (lex_readFileSandboxCode relativePath instruction) h.valid

/-- A text file with an ordinary name. -/
theorem not_readsGivenFile_notes :
    validateRelativePath "notes.txt".toList = .ok "notes.txt".toList ∧
      ¬ReadsGivenFile "notes.txt".toList "提取全部内容".toList :=
  ⟨by decide +kernel, fun h => not_tokenizes_of_lex (lex_readFileSandboxCode _ _) h.valid⟩

end EcommerceAgent.Sandbox
