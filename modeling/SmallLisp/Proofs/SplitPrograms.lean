import SmallLisp.CommandLine.Run
import SmallLisp.Proofs.PromptErrors
import SmallLisp.Proofs.Refinement

/-!
# Programs in several files

A program can be split over files. Read one after another, the files have the same tokens as one
file with their contents put together, a line feed between any two of them. So the command
evaluates the same forms in the same order, up to the first that fails.

## Main definitions

* `SourceFile`: a file with its forms
* `Session.FirstError`: the first form of a program that fails with an error of the language

## Main results

* `scanned_plainNewlines`: the ends of lines may be written in any way
* `exists_joined`: the contents of files that can be read, put together, can be read
* `CommandLine.runFiles_eq_runForms`: running files is running their forms
* `CommandLine.split_program_runs_alike`: splitting a program over files changes nothing
-/

namespace SmallLisp

open TokenTree

/-! ## The tokens of files -/

/-- The ends of lines may be written in any way, as all of them are blanks. -/
theorem scanned_plainNewlines (cs : List Char) : scanned (Text.plainNewlines cs) = scanned cs := by
  have hfold : (Text.plainNewlines cs).foldr Token.scanStep ([], []) =
      cs.foldr Token.scanStep ([], []) := by
    fun_induction Text.plainNewlines cs with
    | case1 => rfl
    | case2 cs ih =>
      simp only [List.foldr_cons, ih, scanStep_blank (c := '\r') rfl,
        scanStep_blank (c := '\n') rfl]
      rfl
    | case3 cs _ ih =>
      simp only [List.foldr_cons, ih, scanStep_blank (c := '\r') rfl,
        scanStep_blank (c := '\n') rfl]
    | case4 c cs _ _ ih => simp only [List.foldr_cons, ih]
  rw [scanned, scanned, hfold]

theorem tokenize_plainNewlines (cs : List Char) :
    tokenize (String.ofList (Text.plainNewlines cs)) = scanned cs := by
  rw [tokenize_eq_scanned, String.toList_ofList, scanned_plainNewlines]

/-- A file is read as its text with plain ends of lines. -/
theorem decodeFile_eq_ok_iff {content : List UInt8} {text : String} :
    decodeFile content = .ok text ↔ ∃ raw, Text.decodeUtf8 content = .ok raw ∧
      text = String.ofList (Text.plainNewlines raw.toList) := by
  rw [decodeFile]
  cases Text.decodeUtf8 content <;> simp [eq_comm]

/-- **Contents put together have the tokens of the contents**, one after another. -/
theorem exists_decodeFile_joined {contents : List (List UInt8)} {texts : List String}
    (h : List.Forall₂ (fun content text => decodeFile content = .ok text) contents texts) :
    ∃ whole, decodeFile ([10].intercalate contents) = .ok whole ∧
      tokenize whole = texts.flatMap tokenize := by
  induction h with
  | nil => exact ⟨"", rfl, rfl⟩
  | @cons content text contents texts hfirst hrest ih =>
    cases hrest with
    | nil => exact ⟨text, by simpa [List.intercalate] using hfirst, by simp⟩
    | @cons next _ contents _ hnext _ =>
      have hjoin : [10].intercalate (content :: next :: contents) =
          content ++ 10 :: [10].intercalate (next :: contents) := by
        simp [List.intercalate]
      obtain ⟨whole, hwhole, htokens⟩ := ih
      obtain ⟨raw, hraw, rfl⟩ := decodeFile_eq_ok_iff.mp hfirst
      obtain ⟨others, hothers, rfl⟩ := decodeFile_eq_ok_iff.mp hwhole
      have hdecoded := Text.decodeUtf8_append_lineFeed hraw hothers
      rw [← hjoin] at hdecoded
      refine ⟨_, decodeFile_eq_ok_iff.mpr ⟨_, hdecoded, rfl⟩, ?_⟩
      rw [List.flatMap_cons, ← htokens, tokenize_plainNewlines, tokenize_plainNewlines,
        tokenize_plainNewlines, String.toList_ofList, scanned_append_blank _ rfl]

/-- A file of a program: where it is, its bytes, its text and its forms. -/
structure SourceFile where
  path : String
  content : List UInt8
  text : String
  forms : List Value

/-- The file is among the files, and its text is read as its forms. -/
structure SourceFile.Readable (files : Files) (limit : Nat) (f : SourceFile) : Prop where
  entry : files.entry f.path = .bytes f.content
  text : files.read f.path = .ok f.text
  forms : parseAll limit f.text = .ok f.forms

section Joined

variable {files : Files} {limit : Nat} {parts : List SourceFile}

theorem SourceFile.Readable.decodeFile {f : SourceFile} (h : f.Readable files limit) :
    decodeFile f.content = .ok f.text := by
  have hread := h.text
  rw [Files.read, h.entry] at hread
  unfold entryText at hread
  split at hread
  · cases hread
  · exact hread

/-- The trees of the files, one after another. -/
theorem exists_tokensAll_of_readable (h : ∀ f ∈ parts, f.Readable files limit) :
    ∃ trees, parts.flatMap (tokenize ·.text) = tokensAll trees ∧
      DepthsIn (· ≤ (limit : Int)) 0 (tokensAll trees) ∧
      parts.flatMap (·.forms) = valueAll trees := by
  induction parts with
  | nil => exact ⟨[], rfl, by simp, by rw [valueAll]; rfl⟩
  | cons f parts ih =>
    rw [List.forall_mem_cons] at h
    obtain ⟨trees, htokens, hdepths, hforms⟩ := exists_tokensAll_of_parseAll h.1.forms
    obtain ⟨others, htokens', hdepths', hforms'⟩ := ih h.2
    refine ⟨trees ++ others, ?_, ?_, ?_⟩
    · rw [List.flatMap_cons, htokens, htokens', tokensAll_append]
    · rw [tokensAll_append, depthsIn_append, depth_tokensAll]
      exact ⟨hdepths, hdepths'⟩
    · rw [List.flatMap_cons, hforms, hforms', valueAll_append]

/-- **The contents of files that can be read, put together, can be read**, as all forms of the
files. -/
theorem exists_joined (h : ∀ f ∈ parts, f.Readable files limit) {path : String}
    (hpath : '\x00' ∉ path.toList)
    (hentry : files.entry path = .bytes ([10].intercalate (parts.map (·.content)))) :
    ∃ text, SourceFile.Readable files limit
      ⟨path, [10].intercalate (parts.map (·.content)), text, parts.flatMap (·.forms)⟩ := by
  have hdecoded : List.Forall₂ (fun content text => decodeFile content = .ok text)
      (parts.map (·.content)) (parts.map (·.text)) := by
    rw [List.forall₂_map_left_iff, List.forall₂_map_right_iff, List.forall₂_same]
    exact fun f hf => (h f hf).decodeFile
  obtain ⟨whole, hwhole, htokens⟩ := exists_decodeFile_joined hdecoded
  obtain ⟨trees, htrees, hdepths, hforms⟩ := exists_tokensAll_of_readable h
  rw [List.flatMap_map, htrees] at htokens
  refine ⟨whole, hentry, ?_, ?_⟩
  · have hnull : path.toList.contains '\x00' = false := by
      simpa using hpath
    simp only [Files.read, entryText, hnull, hentry, hwhole]
    rfl
  · rw [parseAll_of_tokensAll htokens hdepths, hforms]

end Joined

/-! ## The first error -/

namespace Session

/-- The form is the first of the program that fails with an error of the language. The forms before
it are evaluated and their values written. -/
structure FirstError (verbose : Bool) (s : Session) (program before : List Value) (form : Value)
    (e : Error) : Prop where
  place : ∃ rest, program = before ++ form :: rest
  passed : (s.runForms verbose before).result = .ok ()
  fails : ((s.runForms verbose before).session.evalForm form).1 = .error e
  language : e.isLanguage = true

section FirstError

variable {verbose : Bool} {s : Session} {program before : List Value} {form : Value} {e : Error}

/-- **Nothing is evaluated or written after the first error.** -/
theorem FirstError.runForms_eq (h : FirstError verbose s program before form e) :
    s.runForms verbose program = ⟨(s.runForms verbose before).events, .error e,
      ((s.runForms verbose before).session.evalForm form).2⟩ := by
  obtain ⟨rest, rfl⟩ := h.place
  rw [runForms_append, Run.andThen, h.passed]
  simp only [runForms, runForm_of_error verbose h.fails, Run.andThen, List.append_nil]

/-- A program fails at its first error, or for want of memory, or because something cannot be
written. -/
theorem Programmed.runForms_error (hs : s.Programmed) (hforms : ∀ f ∈ program, Parsed f)
    (he : (s.runForms verbose program).result = .error e) :
    (∃ before form, FirstError verbose s program before form e) ∨
      e = .outOfMemory ∨ ∃ fault : TextFault, e = fault.error := by
  obtain ⟨before, form, rest, rfl, hbefore, hform⟩ := exists_of_runForms_error he
  have hparsed : Parsed form := hforms form (by simp)
  have hsession : (s.runForms verbose before).session.Programmed :=
    hs.runForms fun f hf => hforms f (List.mem_append_left _ hf)
  rcases hsession.runForm_error hparsed hform with ⟨hlanguage, heval⟩ | hmemory | ⟨fault, hfault, -⟩
  · exact .inl ⟨before, form, ⟨rest, rfl⟩, hbefore, heval, hlanguage⟩
  · exact .inr (.inl hmemory)
  · exact .inr (.inr ⟨fault, hfault⟩)

end FirstError

/-- A session without a prelude is begun with the built-in names alone. -/
theorem programmed_of_start {o : Options} {vars : Variables} {store : Store} {s : Session}
    (hprelude : o.prelude = "") (h : start o vars store = .ok s) : s.Programmed := by
  rw [start, bind_eq_ok_iff] at h
  obtain ⟨mode, -, h⟩ := h
  rw [bind_eq_ok_iff] at h
  obtain ⟨limit, -, h⟩ := h
  have hempty : o.prelude.isEmpty = true := by
    rw [hprelude]
    rfl
  simp only [hempty, if_true] at h
  cases h
  exact programmed_initial mode limit store

end Session

/-! ## The standard output -/

section Output

variable (verbose : Bool)

@[simp] theorem standardOutput_append (es es' : List Event) :
    standardOutput (es ++ es') = standardOutput es ++ standardOutput es' := by
  simp [standardOutput]

@[simp] theorem standardOutput_logEvents (source text : String) :
    standardOutput (logEvents verbose source text) = "" := by
  cases verbose <;> rfl

end Output

namespace CommandLine

@[simp] theorem standardOutput_fileEnding (path : String) (e : Error) :
    standardOutput (fileEnding path e).1 = "" := by
  unfold fileEnding
  split <;> rfl

/-- How running files ends the command, by how it goes with their forms. -/
def filesEnding : Except Error Unit → Option Ending
  | .ok () => none
  | .error e => some (if isReported e then .exit 1 else .failure e)

/-- An error in a file ends the command as it ends the run of its forms. -/
theorem snd_fileEnding (path : String) (e : Error) :
    some (fileEnding path e).2 = filesEnding (.error e) := by
  rw [filesEnding, fileEnding]
  split <;> rfl

variable {files : Files} {parts : List SourceFile}

/-- **Running files is running their forms**, one after another. -/
theorem runFiles_eq_runForms (verbose : Bool) (s : Session)
    (h : ∀ f ∈ parts, f.Readable files s.limit) :
    let forms := s.runForms verbose (parts.flatMap (·.forms))
    let r := runFiles verbose files.read s (parts.map (·.path))
    standardOutput r.events = standardOutput forms.events ∧ r.ending = filesEnding forms.result ∧
      r.session = forms.session := by
  induction parts generalizing s with
  | nil => exact ⟨rfl, rfl, rfl⟩
  | cons f parts ih =>
    rw [List.forall_mem_cons] at h
    have hfile : s.runFileText verbose f.path (files.read f.path) =
        ⟨logEvents verbose runnerLog ("running " ++ f.path) ++
          (s.runForms verbose f.forms).events, (s.runForms verbose f.forms).result,
          (s.runForms verbose f.forms).session⟩ := by
      simp only [Session.runFileText, h.1.text, Session.runText_of_parseAll verbose h.1.forms]
    simp only [List.map_cons, List.flatMap_cons, Session.runForms_append, runFiles, hfile]
    cases hresult : (s.runForms verbose f.forms).result with
    | error e =>
      simp only [Run.andThen, hresult, standardOutput_append, standardOutput_logEvents,
        standardOutput_fileEnding, snd_fileEnding]
      simp
    | ok =>
      have hlimit := Session.limit_runForms verbose s f.forms
      obtain ⟨houtput, hending, hsession⟩ := ih (s.runForms verbose f.forms).session
        (by rw [hlimit]; exact h.2)
      simp only [Run.andThen, hresult, standardOutput_append, standardOutput_logEvents, houtput,
        hending, hsession]
      simp

/-- The command without the prompt runs the forms of its files. -/
theorem runSession_eq_runForms (args : Arguments) (lines : List String) (s : Session)
    (hprompt : args.interactive = false) (hne : parts ≠ [])
    (hparts : args.files = parts.map (·.path)) (h : ∀ f ∈ parts, f.Readable files s.limit) :
    let forms := s.runForms args.verbose (parts.flatMap (·.forms))
    let r := runSession args files.read lines s
    standardOutput r.events = standardOutput forms.events ∧
      r.ending = (filesEnding forms.result).getD (.exit 0) ∧ r.session = some forms.session := by
  obtain ⟨houtput, hending, hsession⟩ := runFiles_eq_runForms args.verbose s h
  have hprompts : args.prompts = false := by
    simp [Arguments.prompts, hprompt, hparts, hne]
  rw [← hparts] at houtput hending hsession
  simp only [runSession, hending, hprompts]
  cases filesEnding (s.runForms args.verbose (parts.flatMap (·.forms))).result with
  | none => simp [readyEvents, houtput, hsession]
  | some ending => simp [readyEvents, houtput, hsession]

/-- If the command ends with an exit status, it is one just if there is a first error. -/
theorem exit_iff_firstError {verbose : Bool} {s : Session} {program : List Value} {status : Nat}
    (hs : s.Programmed) (hforms : ∀ f ∈ program, Parsed f)
    (h : (filesEnding (s.runForms verbose program).result).getD (.exit 0) = .exit status) :
    (status = 0 ∨ status = 1) ∧
      (status = 1 ↔ ∃ before form e, s.FirstError verbose program before form e) := by
  cases hresult : (s.runForms verbose program).result with
  | ok =>
    rw [hresult] at h
    cases h
    refine ⟨.inl rfl, nofun, ?_⟩
    rintro ⟨before, form, e, hfirst⟩
    rw [hfirst.runForms_eq] at hresult
    cases hresult
  | error e =>
    rw [hresult] at h
    rcases hs.runForms_error hforms hresult with ⟨before, form, hfirst⟩ | rfl | ⟨fault, rfl⟩
    · have hreported : isReported e = true := by
        rw [isReported, Bool.or_eq_true]
        exact .inl hfirst.language
      rw [filesEnding, if_pos hreported] at h
      cases h
      exact ⟨.inr rfl, fun _ => ⟨before, form, e, hfirst⟩, fun _ => rfl⟩
    · cases h
    · cases fault <;> cases h

/-- **Splitting a program over files changes nothing.** The command is given files that can be read,
and no prompt is asked for. Given one file with their contents instead, a line feed between any two
of them, it writes the same on the standard output, ends in the same way and leaves the same
session. If it ends with an exit status, the status is one just if a form fails with an error of
the language. Then the forms before the first such form are all whose values are written, and that
form is the last to be evaluated. -/
theorem split_program_runs_alike {argv argv' : List String} {args : Arguments} {joined : String}
    {parts : List SourceFile} {vars : Variables} {files : Files} (lines lines' : List String)
    (hargs : parseArguments argv = .run args)
    (hargs' : parseArguments argv' = .run { args with files := [joined] })
    (hprompt : args.interactive = false) (hne : parts ≠ [])
    (hparts : args.files = parts.map (·.path))
    (hread : ∀ s, Session.start args.options vars Store.empty = .ok s →
      ∀ f ∈ parts, f.Readable files s.limit)
    (hpath : '\x00' ∉ joined.toList)
    (hentry : files.entry joined = .bytes ([10].intercalate (parts.map (·.content)))) :
    let split := run argv vars files lines
    let whole := run argv' vars files lines'
    let program := parts.flatMap (·.forms)
    standardOutput split.events = standardOutput whole.events ∧ split.ending = whole.ending ∧
      split.session = whole.session ∧
      ∀ status, split.ending = .exit status →
        ∃ s, Session.start args.options vars Store.empty = .ok s ∧ (status = 0 ∨ status = 1) ∧
          (status = 1 ↔ ∃ before form e, s.FirstError args.verbose program before form e) ∧
          ∀ before form e, s.FirstError args.verbose program before form e →
            standardOutput split.events = standardOutput (s.runForms args.verbose before).events ∧
            split.session = some ((s.runForms args.verbose before).session.evalForm form).2 := by
  intro split whole program
  simp only [split, whole, run, hargs, hargs', runArguments]
  have hoptions : Arguments.options { args with files := [joined] } = args.options := rfl
  rw [hoptions]
  cases hstart : Session.start args.options vars Store.empty with
  | error e => exact ⟨rfl, rfl, rfl, nofun⟩
  | ok s =>
    have hreadable := hread s hstart
    obtain ⟨text, hwhole⟩ := exists_joined hreadable hpath hentry
    obtain ⟨houtput, hending, hsession⟩ :=
      runSession_eq_runForms args lines s hprompt hne hparts hreadable
    obtain ⟨houtput', hending', hsession'⟩ :=
      runSession_eq_runForms { args with files := [joined] } lines' s hprompt
        (List.cons_ne_nil _ _) rfl (List.forall_mem_singleton.mpr hwhole)
    rw [List.flatMap_singleton] at houtput' hending' hsession'
    refine ⟨houtput.trans houtput'.symm, hending.trans hending'.symm,
      hsession.trans hsession'.symm, fun status hstatus => ⟨s, rfl, ?_⟩⟩
    have hparsed : ∀ form ∈ program, Parsed form := by
      intro form hform
      obtain ⟨f, hf, hform⟩ := List.mem_flatMap.mp hform
      exact ⟨s.limit, f.text, f.forms, (hreadable f hf).forms, hform⟩
    obtain ⟨hstatuses, hiff⟩ := exit_iff_firstError
      (Session.programmed_of_start rfl hstart) hparsed (hending.symm.trans hstatus)
    refine ⟨hstatuses, hiff, fun before form e hfirst => ?_⟩
    rw [hfirst.runForms_eq] at houtput hsession
    exact ⟨houtput, hsession⟩

/-- The second of two files calls a function of the first and then one that there is not. The lines
of the first end with carriage returns. -/
theorem split_program_runs_alike_unbound :
    let first := Text.textBytes "(defun f (x)\r\n x)\r"
    let second := Text.textBytes "(f 2) (g)\n7"
    let files : Files := ⟨[], [(["a"], .bytes first), (["b"], .bytes second),
      (["ab"], .bytes (first ++ 10 :: second))]⟩
    standardOutput (run ["--lexical", "a", "b"] [] files []).events = "Defined function: F\n2\n" ∧
      (run ["--lexical", "a", "b"] [] files []).ending = .exit 1 ∧
      standardOutput (run ["--lexical", "a", "b"] [] files []).events =
        standardOutput (run ["--lexical", "ab"] [] files []).events ∧
      (run ["--lexical", "a", "b"] [] files []).ending =
        (run ["--lexical", "ab"] [] files []).ending ∧
      (run ["--lexical", "a", "b"] [] files []).session =
        (run ["--lexical", "ab"] [] files []).session := by
  intro first second files
  let args : Arguments := ⟨["a", "b"], false, true, .unset, false⟩
  let treesA : List TokenTree :=
    [.node [.leaf "defun", .leaf "f", .node [.leaf "x"], .leaf "x"]]
  let treesB : List TokenTree := [.node [.leaf "f", .leaf "2"], .node [.leaf "g"], .leaf "7"]
  let a : SourceFile := ⟨"a", first, "(defun f (x)\n x)\n", valueAll treesA⟩
  let b : SourceFile := ⟨"b", second, "(f 2) (g)\n7", valueAll treesB⟩
  have hentries (x y z : FileEntry) :
      let listed : Files := ⟨[], [(["a"], x), (["b"], y), (["ab"], z)]⟩
      listed.entry "a" = x ∧ listed.entry "b" = y ∧ listed.entry "ab" = z := ⟨rfl, rfl, rfl⟩
  obtain ⟨hfirst, hsecond, hboth⟩ :=
    hentries (.bytes first) (.bytes second) (.bytes (first ++ 10 :: second))
  have hlimit : (Session.start args.options [] Store.empty).map (·.limit) = .ok 10000 := by
    decide +kernel
  have hread : ∀ s, Session.start args.options [] Store.empty = .ok s →
      ∀ f ∈ [a, b], f.Readable files s.limit := by
    intro s hs
    have hten : s.limit = 10000 := by
      rw [hs] at hlimit
      exact Except.ok.inj hlimit
    rw [hten]
    have hdepthsA : DepthsIn (· ≤ ((10000 : Nat) : Int)) 0 (tokensAll treesA) := by
      simp [treesA, Token.weight]
    have hdepthsB : DepthsIn (· ≤ ((10000 : Nat) : Int)) 0 (tokensAll treesB) := by
      simp [treesB, Token.weight]
    have ha : a.Readable files 10000 :=
      ⟨hfirst, by decide +kernel, parseAll_of_tokensAll (by decide +kernel) hdepthsA⟩
    have hb : b.Readable files 10000 :=
      ⟨hsecond, by decide +kernel, parseAll_of_tokensAll (by decide +kernel) hdepthsB⟩
    simp [ha, hb]
  have hsplit :
      standardOutput (run ["--lexical", "a", "b"] [] files []).events =
          "Defined function: F\n2\n" ∧
        (run ["--lexical", "a", "b"] [] files []).ending = .exit 1 := by
    decide +kernel
  have hargs : parseArguments ["--lexical", "a", "b"] = .run args := by
    decide +kernel
  have hargs' : parseArguments ["--lexical", "ab"] = .run { args with files := ["ab"] } := by
    decide +kernel
  have hjoined : files.entry "ab" = .bytes ([10].intercalate ([a, b].map (·.content))) := by
    rw [hboth]
    simp [List.intercalate, a, b]
  obtain ⟨houtput, hending, hsession, -⟩ := split_program_runs_alike [] [] hargs hargs' rfl
    (List.cons_ne_nil a [b]) rfl hread (by decide +kernel) hjoined
  exact ⟨hsplit.1, hsplit.2, houtput, hending, hsession⟩

end CommandLine

end SmallLisp
