import Mathlib.Data.List.TakeWhile
import SmallLisp.Proofs.PromptLoop
import SmallLisp.Proofs.RoundTrip
import SmallLisp.Proofs.ScopingModes
import SmallLisp.Proofs.Text.Utf8

/-!
# The prompt and the runner of files

A program can be read from a file at once, or line by line at the prompt, which gathers lines until
their parentheses balance and reads each such text alone. If the program can be read, its tokens
are those of trees, and the texts of the prompt cut the trees into consecutive parts: a text ends
where no parenthesis is open, so no tree lies across its end. Both then evaluate the same forms in
the same order.

## Main definitions

* `splitLines`: the lines of a text

## Main results

* `tokenize_joinLines`: the tokens of lines put together are the tokens of the lines
* `exists_forests`: the texts of the prompt cut the trees of the lines into parts
* `Answers.eq_runForms`: the answers to texts are what their forms write, if none fails
* `prompt_agrees_with_file`: the prompt writes what the runner of files writes
-/

namespace SmallLisp

open TokenTree

/-! ## Lines -/

/-- The lines of a text, which are separated by line feeds. -/
def splitLines (text : String) : List String :=
  (text.toList.splitOn '\n').map String.ofList

/-- The lines of a text, put together, are the text. -/
theorem joinLines_splitLines (text : String) : joinLines (splitLines text) = text := by
  have hlines : (splitLines text).map String.toList = text.toList.splitOn '\n' := by
    simp [splitLines, Function.comp_def]
  rw [← String.toList_inj, joinLines, Text.joinWith, String.toList_intercalate, hlines]
  exact List.intercalate_splitOn '\n'

/-- **The tokens of lines put together are the tokens of the lines**, one after another. -/
theorem tokenize_joinLines (lines : List String) :
    tokenize (joinLines lines) = lines.flatMap tokenize :=
  tokenize_joinWith (c := '\n') rfl rfl lines

/-- A text without anything but blanks has no tokens. -/
theorem tokenize_eq_nil_of_strip {text : String} (h : Text.strip text.toList = []) :
    tokenize text = [] := by
  rw [tokenize_eq_scanned]
  apply scanned_of_forall_isBlank
  have hrest : (text.toList.dropWhile Text.isBlank).reverse.dropWhile Text.isBlank = [] := by
    simpa [Text.strip] using h
  rw [List.dropWhile_eq_nil_iff] at hrest
  intro c hc
  rw [← List.takeWhile_append_dropWhile (p := Text.isBlank) (l := text.toList)] at hc
  rcases List.mem_append.mp hc with hc | hc
  · exact List.all_eq_true.mp List.all_takeWhile c hc
  · exact hrest c (List.mem_reverse.mpr hc)

/-! ## The texts of the prompt -/

/-- There is a prompt for each line, and one for the end of the input. -/
theorem length_prompts_gatherAllFrom (gathered lines : List String) :
    (gatherAllFrom gathered lines).prompts.length = lines.length + 1 := by
  induction lines generalizing gathered with
  | nil => rfl
  | cons line lines ih =>
    simp only [gatherAllFrom]
    split
    · exact congrArg (· + 1) (ih [])
    · exact congrArg (· + 1) (ih (gathered ++ [line]))

/-- **The texts of the prompt cut the trees of the lines into parts.** No line is left over, as the
trees close all that they open. -/
theorem exists_forests (gathered lines : List String) {f : List TokenTree}
    (hgathered : gathered = [] ∨ 0 < depth (gathered.flatMap tokenize))
    (hts : (gathered ++ lines).flatMap tokenize = tokensAll f) :
    ∃ fs : List (List TokenTree), f = fs.flatten ∧
      List.Forall₂ (fun text g => tokenize text = tokensAll g)
        (gatherAllFrom gathered lines).forms fs := by
  -- by the lines; what was gathered is open, and the trees go on with the next line
  induction lines generalizing gathered f with
  | nil =>
    rw [List.append_nil] at hts
    rcases hgathered with rfl | hpos
    · exact ⟨[], tokensAll_injective (hts.symm.trans tokensAll_nil.symm), .nil⟩
    · rw [hts, depth_tokensAll] at hpos
      exact absurd hpos (Int.lt_irrefl 0)
  | cons line lines ih =>
    have hnow : (gathered ++ line :: lines).flatMap tokenize =
        tokenize (joinLines (gathered ++ [line])) ++ lines.flatMap tokenize := by
      rw [tokenize_joinLines, ← List.flatMap_append, List.append_assoc, List.singleton_append]
    have hdepths := depthsIn_tokensAll (Int.le_refl 0) f
    rw [← hts, hnow, depthsIn_append] at hdepths
    simp only [gatherAllFrom, completeForm?]
    by_cases hcomplete : depth (tokenize (joinLines (gathered ++ [line]))) ≤ 0
    · simp only [if_pos hcomplete]
      have hzero : depth (tokenize (joinLines (gathered ++ [line]))) = 0 := by
        have hnonneg := hdepths.1 _ List.prefix_rfl
        omega
      have hrest : depth (lines.flatMap tokenize) = 0 := by
        have hall := depth_tokensAll f
        rw [← hts, hnow, depth_append, hzero] at hall
        omega
      obtain ⟨g, hg⟩ := exists_tokensAll_of_depth hdepths.1 hzero
      obtain ⟨g', hg'⟩ := exists_tokensAll_of_depth (by simpa [hzero] using hdepths.2) hrest
      obtain ⟨fs, rfl, hfs⟩ := ih [] (.inl rfl) hg'
      refine ⟨g :: fs, tokensAll_injective ?_, .cons hg hfs⟩
      rw [← hts, hnow, hg, hg', List.flatten_cons, tokensAll_append]
    · simp only [if_neg hcomplete]
      refine ih (gathered ++ [line]) (.inr ?_) ?_
      · rw [← tokenize_joinLines]
        exact Int.not_le.mp hcomplete
      · rw [← hts, List.append_assoc, List.singleton_append]

/-- Each text is read as its part of the trees, if these are not nested too deeply. -/
theorem parseAll_of_forests {limit : Nat} {texts : List String} {fs : List (List TokenTree)}
    (h : List.Forall₂ (fun text g => tokenize text = tokensAll g) texts fs)
    (hfs : DepthsIn (· ≤ (limit : Int)) 0 (tokensAll fs.flatten)) :
    List.Forall₂ (fun text forms => parseAll limit text = .ok forms) texts (fs.map valueAll) := by
  induction h with
  | nil => exact .nil
  | @cons text g texts fs htext _ ih =>
    rw [List.flatten_cons, tokensAll_append, depthsIn_append, depth_tokensAll] at hfs
    exact .cons (parseAll_of_tokensAll htext hfs.1) (ih hfs.2)

theorem valueAll_flatten (fs : List (List TokenTree)) :
    valueAll fs.flatten = (fs.map valueAll).flatten := by
  induction fs with
  | nil => rw [List.flatten_nil, valueAll, List.map_nil, List.flatten_nil]
  | cons f fs ih => rw [List.flatten_cons, valueAll_append, ih, List.map_cons, List.flatten_cons]

/-! ## Forms one after another -/

namespace Run

/-- It does not matter how runs one after another are grouped. -/
theorem andThen_assoc (r : Run) (next next' : Session → Run) :
    (r.andThen next).andThen next' = r.andThen fun s => (next s).andThen next' := by
  obtain ⟨events, result, s⟩ := r
  cases result with
  | error e => rfl
  | ok =>
    simp only [andThen]
    cases (next s).result with
    | error e => rfl
    | ok => simp only [List.append_assoc]

/-- Runs one after another go well just if each of them does. -/
theorem result_andThen_eq_ok_iff {r : Run} {next : Session → Run} :
    (r.andThen next).result = .ok () ↔ r.result = .ok () ∧ (next r.session).result = .ok () := by
  unfold andThen
  split <;> simp_all

/-- They fail where the first of them fails. -/
theorem result_andThen_eq_error_iff {r : Run} {next : Session → Run} {e : Error} :
    (r.andThen next).result = .error e ↔
      r.result = .error e ∨ r.result = .ok () ∧ (next r.session).result = .error e := by
  unfold andThen
  split <;> simp_all

end Run

namespace Session

variable (verbose : Bool)

/-- Forms of two parts run one part after the other. -/
theorem runForms_append (s : Session) (forms forms' : List Value) :
    s.runForms verbose (forms ++ forms') =
      (s.runForms verbose forms).andThen fun s => s.runForms verbose forms' := by
  induction forms generalizing s with
  | nil => rfl
  | cons form forms ih =>
    rw [List.cons_append, runForms, runForms, Run.andThen_assoc]
    exact congrArg _ (funext ih)

/-- Writing a value does not change the session. -/
theorem session_runForm (s : Session) (form : Value) :
    (s.runForm verbose form).session = (s.evalForm form).2 := by
  unfold runForm
  split
  · rename_i heq
    rw [heq]
  · rename_i heq
    rw [heq]
    split
    · rfl
    · split <;> rfl

theorem limit_runForm (s : Session) (form : Value) :
    (s.runForm verbose form).session.limit = s.limit := by
  rw [session_runForm, evalForm_eq]

theorem limit_runForms (s : Session) (forms : List Value) :
    (s.runForms verbose forms).session.limit = s.limit := by
  induction forms generalizing s with
  | nil => rfl
  | cons form forms ih =>
    have hform := limit_runForm verbose s form
    rw [runForms, Run.andThen]
    split
    · exact hform
    · exact (ih _).trans hform

/-- The limit of a session stays as it is. -/
theorem limit_runText (s : Session) (text : String) :
    (s.runText verbose text).session.limit = s.limit := by
  unfold runText
  split
  · rfl
  · exact limit_runForms verbose s _

/-- A text that is read runs as its forms. -/
theorem runText_of_parseAll {s : Session} {text : String} {forms : List Value}
    (h : SmallLisp.parseAll s.limit text = .ok forms) :
    s.runText verbose text = s.runForms verbose forms := by
  rw [runText, parseAll, h]
  rfl

end Session

/-- The answer to a text whose forms do not fail is what they write. -/
theorem Answer.eq_runForms {verbose : Bool} {s s' : Session} {text : String} {out : List String}
    (h : Answer verbose s text out s') {forms : List Value}
    (hparse : parseAll s.limit text = .ok forms)
    (hrun : (s.runForms verbose forms).result = .ok ()) :
    out = outputTexts (s.runForms verbose forms).events ∧
      s' = (s.runForms verbose forms).session := by
  have htext := Session.runText_of_parseAll verbose hparse
  cases h with
  | blank strip =>
    rw [parseAll, tokenize_eq_nil_of_strip strip, readForms] at hparse
    cases hparse
    exact ⟨rfl, rfl⟩
  | printed => exact ⟨by rw [htext], by rw [htext]⟩
  | reported quit result language =>
    rw [htext, hrun] at result
    cases result

/-- **The answers to texts are what their forms write**, one after another, if none fails. -/
theorem Answers.eq_runForms {verbose : Bool} {s s' : Session} {texts left out : List String}
    (h : Answers verbose s texts out s') {limit : Nat} (hlimit : s.limit = limit)
    {forms : List (List Value)}
    (hparse : List.Forall₂ (fun text forms => parseAll limit text = .ok forms) (texts ++ left)
      forms)
    (hrun : (s.runForms verbose forms.flatten).result = .ok ()) :
    ∃ first rest, forms = first ++ rest ∧
      List.Forall₂ (fun text forms => parseAll limit text = .ok forms) left rest ∧
      out = outputTexts (s.runForms verbose first.flatten).events ∧
      s' = (s.runForms verbose first.flatten).session := by
  induction h generalizing forms with
  | nil s => exact ⟨[], forms, rfl, hparse, rfl, rfl⟩
  | cons answer _ ih =>
    cases hparse with
    | @cons _ fs _ others hfs hothers =>
      subst hlimit
      rw [List.flatten_cons, Session.runForms_append] at hrun
      obtain ⟨hrun₁, hrun₂⟩ := Run.result_andThen_eq_ok_iff.mp hrun
      obtain ⟨rfl, rfl⟩ := answer.eq_runForms hfs hrun₁
      obtain ⟨first, rest, rfl, hleft, rfl, rfl⟩ :=
        ih (Session.limit_runForms verbose _ fs) hothers hrun₂
      refine ⟨fs :: first, rest, rfl, hleft, ?_⟩
      rw [List.flatten_cons, Session.runForms_append, Run.andThen, hrun₁]
      exact ⟨(outputTexts_append _ _).symm, rfl⟩

/-- The prompt writes what the forms of its texts write, if none fails and no text asks to leave. -/
theorem Prompt.start_of_forms (verbose : Bool) (s : Session) {lines : List String}
    {forms : List (List Value)}
    (hparse : List.Forall₂ (fun text forms => parseAll s.limit text = .ok forms)
      (gatherForms lines).forms forms)
    (hrun : (s.runForms verbose forms.flatten).result = .ok ())
    (hquit : ∀ g ∈ (gatherForms lines).forms, isQuit g = false) :
    (start verbose s lines).result = .ok () ∧
      outputTexts (start verbose s lines).events =
        outputTexts (s.runForms verbose forms.flatten).events ++ ["\n"] ∧
      promptTexts (start verbose s lines).events = (gatherForms lines).prompts ∧
      (start verbose s lines).session = (s.runForms verbose forms.flatten).session := by
  obtain ⟨answered, left, out, last, s', htexts, hanswers, hend, hout, hprompts, -⟩ :=
    exists_dialogue verbose ⟨s, []⟩ lines
  have htexts : (gatherForms lines).forms = answered ++ left := htexts
  rw [htexts] at hparse hquit
  obtain ⟨first, rest, rfl, hleft, rfl, rfl⟩ := hanswers.eq_runForms rfl hparse hrun
  rw [start]
  generalize run verbose ⟨s, []⟩ lines = r at hend hout hprompts ⊢
  obtain ⟨events, result, session⟩ := r
  cases hend with
  | input =>
    cases hleft
    rw [List.append_nil]
    exact ⟨rfl, hout, hprompts rfl, rfl⟩
  | quit quit =>
    rw [hquit _ (List.mem_append_right _ (.head _))] at quit
    cases quit
  | failed _ result _ =>
    cases hleft with
    | cons htext _ =>
      rw [List.flatten_append, List.flatten_cons, Session.runForms_append] at hrun
      have hrest := (Run.result_andThen_eq_ok_iff.mp hrun).2
      rw [Session.runForms_append] at hrest
      have htext' := Run.result_andThen_eq_ok_iff.mp hrest
      rw [← Session.limit_runForms verbose s first.flatten] at htext
      rw [Session.runText_of_parseAll verbose htext, htext'.1] at result
      cases result

/-! ## The same program at the prompt and in a file -/

/-- A file with the bytes of a text is run as the text. -/
theorem Session.runFile_textBytes {files : Files} {path text : String}
    (hpath : '\x00' ∉ path.toList) (hfile : files.entry path = .bytes (Text.textBytes text))
    (htext : '\r' ∉ text.toList) (verbose : Bool) (s : Session) :
    s.runFile verbose files path =
      ⟨logEvents verbose runnerLog ("running " ++ path) ++ (s.runText verbose text).events,
        (s.runText verbose text).result, (s.runText verbose text).session⟩ := by
  have hnull : path.toList.contains '\x00' = false := by
    simpa using hpath
  have hread : files.read path = .ok text := by
    simp only [Files.read, entryText, hnull, hfile, Text.decodeFile_textBytes htext]
    rfl
  simp only [runFile, runFileText, hread]

theorem Session.parseAll_eq_ok_iff {s : Session} {text : String} {forms : List Value} :
    s.parseAll text = .ok forms ↔ SmallLisp.parseAll s.limit text = .ok forms := by
  rw [parseAll]
  cases SmallLisp.parseAll s.limit text <;> simp [Except.mapError]

/-- **The prompt and the runner of files agree.** A text without carriage returns can be read, its
forms can be evaluated and their values written, and no text that the prompt makes of its lines asks
to leave. Then the prompt, given the lines, writes what the runner writes for a file with the text,
and one line feed more. It asks for every line and for the end of the input, and leaves the same
session. -/
theorem prompt_agrees_with_file (verbose : Bool) (s : Session) {text : String}
    (htext : '\r' ∉ text.toList) {forms : List Value} (hparse : s.parseAll text = .ok forms)
    (hrun : (s.runForms verbose forms).result = .ok ())
    (hquit : ∀ g ∈ (gatherForms (splitLines text)).forms, isQuit g = false)
    {files : Files} {path : String} (hpath : '\x00' ∉ path.toList)
    (hfile : files.entry path = .bytes (Text.textBytes text)) :
    (Prompt.start verbose s (splitLines text)).result = .ok () ∧
      (s.runFile verbose files path).result = .ok () ∧
      outputTexts (Prompt.start verbose s (splitLines text)).events =
        outputTexts (s.runFile verbose files path).events ++ ["\n"] ∧
      (promptTexts (Prompt.start verbose s (splitLines text)).events).length =
        (splitLines text).length + 1 ∧
      (Prompt.start verbose s (splitLines text)).session =
        (s.runFile verbose files path).session := by
  rw [Session.parseAll_eq_ok_iff] at hparse
  have hfileRun := Session.runFile_textBytes hpath hfile htext verbose s
  rw [Session.runText_of_parseAll verbose hparse] at hfileRun
  obtain ⟨f, htokens, hdepths, rfl⟩ := exists_tokensAll_of_parseAll hparse
  have hlines : (splitLines text).flatMap tokenize = tokensAll f := by
    rw [← tokenize_joinLines, joinLines_splitLines, htokens]
  obtain ⟨fs, rfl, hfs⟩ := exists_forests [] (splitLines text) (.inl rfl) hlines
  rw [valueAll_flatten] at hrun hfileRun
  obtain ⟨hresult, hout, hprompts, hsession⟩ :=
    Prompt.start_of_forms verbose s (parseAll_of_forests hfs hdepths) hrun hquit
  rw [hfileRun, hout, hprompts, hsession, outputTexts_append, outputTexts_logEvents]
  exact ⟨hresult, hrun, rfl, length_prompts_gatherAllFrom [] _, rfl⟩

/-- A definition over two lines with a form behind it, a blank line, and a call. -/
theorem prompt_agrees_with_file_lines :
    let text := "(defun f (x)\n x) 7\n\n(f 2)"
    let s : Session := ⟨.lexical, 9, ⟨#[⟨[], none⟩], 0⟩, 0⟩
    let files : Files := Files.put ⟨[], []⟩ "p" (.bytes (Text.textBytes text))
    (gatherForms (splitLines text)).forms = ["(defun f (x)\n x) 7", "", "(f 2)"] ∧
      outputTexts (Prompt.start false s (splitLines text)).events =
        ["Defined function: F\n", "7\n", "2\n", "\n"] ∧
      outputTexts (Prompt.start false s (splitLines text)).events =
        outputTexts (s.runFile false files "p").events ++ ["\n"] := by
  intro text s files
  let trees : List TokenTree :=
    [.node [.leaf "defun", .leaf "f", .node [.leaf "x"], .leaf "x"], .leaf "7",
      .node [.leaf "f", .leaf "2"]]
  have htokens : tokenize text = tokensAll trees := by
    decide +kernel
  have hdepths : DepthsIn (· ≤ ((9 : Nat) : Int)) 0 (tokensAll trees) := by
    simp [trees, Token.weight]
  have hparse : s.parseAll text = .ok (valueAll trees) :=
    Session.parseAll_eq_ok_iff.mpr (parseAll_of_tokensAll htokens hdepths)
  have hforms : (gatherForms (splitLines text)).forms = ["(defun f (x)\n x) 7", "", "(f 2)"] := by
    decide +kernel
  have hquit : ∀ g ∈ (gatherForms (splitLines text)).forms, isQuit g = false := by
    rw [hforms]
    decide +kernel
  have hrun : (s.runForms false (valueAll trees)).result = .ok () ∧
      outputTexts (s.runForms false (valueAll trees)).events =
        ["Defined function: F\n", "7\n", "2\n"] := by
    decide +kernel
  have hfile : files.entry "p" = .bytes (Text.textBytes text) := rfl
  obtain ⟨-, -, hout, -⟩ := prompt_agrees_with_file false s (by decide +kernel) hparse hrun.1 hquit
    (by decide +kernel) hfile
  refine ⟨hforms, ?_, hout⟩
  rw [hout, Session.runFile_textBytes (by decide +kernel) hfile (by decide +kernel),
    Session.runText_of_parseAll _ (Session.parseAll_eq_ok_iff.mp hparse), outputTexts_append,
    hrun.2]
  rfl

end SmallLisp
