import PageScript.Template

/-!
# Texts and their tokens

There is one way only to cut a text into literals and tokens: what is opened in a literal would be a
token if it were closed, and a token ends where it is closed first. `Template.Cuts` says this of a
cut without saying how it is found. `parse` finds it: both go through the text from left to right,
and at each place there is one of three things, a token, an opening that is never closed, or a
character of a literal. A lemma for each of the three says what a cut looks like there, and an
induction along `parse` puts them together.

What a cut yields is told token by token, and what has been put in for a token is not looked at
again.
-/

namespace PageScript

namespace Text

theorem cutOnce_eq_none {sep : Char} {s : List Char} (h : cutOnce sep s = none) : sep ∉ s := by
  induction s with
  | nil => exact List.not_mem_nil
  | cons c r ih =>
    rw [cutOnce] at h
    split at h
    · cases h
    · rename_i hne
      exact List.not_mem_cons_of_ne_of_not_mem (Ne.symm hne) (ih (Option.map_eq_none_iff.1 h))

theorem not_mem_of_cutOnce {sep : Char} {s before after : List Char}
    (h : cutOnce sep s = some (before, after)) : sep ∉ before := by
  induction s generalizing before with
  | nil => cases h
  | cons c r ih =>
    rw [cutOnce] at h
    split at h
    · cases h
      exact List.not_mem_nil
    · rename_i hne
      obtain ⟨⟨b, a⟩, hb, heq⟩ := Option.map_eq_some_iff.1 h
      cases heq
      exact List.not_mem_cons_of_ne_of_not_mem (Ne.symm hne) (ih hb)

end Text

namespace Template

variable {t : Template} {c : Char} {name rest after : List Char}

/-! ## Cuts -/

/-- A cut of a text: the pieces make up the text, no token is opened in a literal but the last, and
each token ends where it is closed first. In the last literal nothing is closed after it has been
opened. -/
structure Cuts (t : Template) (s : List Char) : Prop where
  toText_eq : t.toText = s
  literals : ∀ token ∈ t.tokens, ¬ opening <:+: token.1
  names : ∀ token ∈ t.tokens, closing ∉ token.2
  last : ∀ before after, t.last = before ++ opening ++ after → closing ∉ after

theorem toText_cons (before name : List Char) (tokens : List (List Char × List Char))
    (last : List Char) : toText ⟨(before, name) :: tokens, last⟩ =
      before ++ tokenText name ++ toText ⟨tokens, last⟩ := by
  simp [toText]

theorem tokenText_eq (name : List Char) : tokenText name = opening ++ (name ++ [closing]) := by
  rw [tokenText, List.append_assoc]

/-- The same cut without the token that it begins with. -/
theorem Cuts.tail {tokens : List (List Char × List Char)} {last s : List Char}
    (h : Cuts ⟨([], name) :: tokens, last⟩ (tokenText name ++ s)) : Cuts ⟨tokens, last⟩ s where
  toText_eq := List.append_cancel_left ((toText_cons ..).symm.trans h.toText_eq)
  literals token hmem := h.literals token (.tail _ hmem)
  names token hmem := h.names token (.tail _ hmem)
  last := h.last

/-- A literal that a text with an opening in front begins with is empty, or holds the opening. -/
theorem opening_infix_of_append {before tail : List Char}
    (h : before ++ (opening ++ tail) = opening ++ rest) (hne : before ≠ []) :
    opening <:+: before := by
  match before, hne with
  | [d], _ => simp [opening] at h
  | d :: e :: before, _ =>
    simp only [opening, List.cons_append, List.nil_append, List.cons.injEq] at h
    obtain ⟨rfl, rfl, -⟩ := h
    exact (List.prefix_append opening before).isInfix

/-! ## Nothing left -/

theorem cuts_nil_iff : t.Cuts [] ↔ t = {} := by
  constructor
  · intro h
    obtain ⟨_ | ⟨⟨before, name⟩, tokens⟩, last⟩ := t
    · have hlast : last = [] := by simpa [toText] using h.toText_eq
      rw [hlast]
    · exact absurd h.toText_eq (by simp [toText_cons, tokenText, opening])
  · rintro rfl
    exact ⟨rfl, List.forall_mem_nil _, List.forall_mem_nil _, fun before after h => by
      simp [opening] at h⟩

/-! ## An opening that is never closed -/

theorem cuts_unclosed (h : closing ∉ rest) :
    Cuts { last := opening ++ rest } (opening ++ rest) := by
  refine ⟨by simp [toText], List.forall_mem_nil _, List.forall_mem_nil _,
    fun before after heq hmem => ?_⟩
  have hclosed : closing ∈ opening ++ rest := by
    rw [show opening ++ rest = before ++ opening ++ after from heq]
    exact List.mem_append_right _ hmem
  rcases List.mem_append.1 hclosed with hclosed | hclosed
  · simp [opening, closing] at hclosed
  · exact h hclosed

theorem Cuts.eq_unclosed (hcuts : t.Cuts (opening ++ rest)) (h : closing ∉ rest) :
    t = { last := opening ++ rest } := by
  obtain ⟨_ | ⟨⟨before, name⟩, tokens⟩, last⟩ := t
  · have hlast : last = opening ++ rest := by simpa [toText] using hcuts.toText_eq
    rw [hlast]
  · -- the first token would be closed after the opening
    have heq := hcuts.toText_eq
    rw [toText_cons, tokenText_eq, List.append_assoc, List.append_assoc] at heq
    by_cases hbefore : before = []
    · rw [hbefore, List.nil_append] at heq
      refine absurd ?_ h
      rw [← List.append_cancel_left heq]
      simp
    · exact absurd (opening_infix_of_append heq hbefore) (hcuts.literals _ (.head _))

/-! ## A token -/

theorem Cuts.withToken (hcuts : t.Cuts after) (h : closing ∉ name) :
    (t.withToken name).Cuts (tokenText name ++ after) where
  toText_eq := by rw [toText_withToken, hcuts.toText_eq]
  literals := List.forall_mem_cons.2 ⟨by simp [opening], hcuts.literals⟩
  names := List.forall_mem_cons.2 ⟨h, hcuts.names⟩
  last := hcuts.last

/-- Two names that end where they are closed first are one. -/
theorem eq_of_closed {name' after' : List Char} (h : closing ∉ name) (h' : closing ∉ name')
    (heq : name ++ closing :: after = name' ++ closing :: after') :
    name = name' ∧ after = after' := by
  induction name generalizing name' with
  | nil =>
    cases name' with
    | nil => exact ⟨rfl, (List.cons.inj heq).2⟩
    | cons c name' => exact absurd (.head _) ((List.cons.inj heq).1 ▸ h')
  | cons c name ih =>
    cases name' with
    | nil => exact absurd (.head _) ((List.cons.inj heq).1 ▸ h)
    | cons c' name' =>
      obtain ⟨rfl, hrest⟩ := List.cons.inj heq
      obtain ⟨rfl, rfl⟩ := ih (fun hmem => h (.tail _ hmem)) (fun hmem => h' (.tail _ hmem)) hrest
      exact ⟨rfl, rfl⟩

theorem Cuts.exists_withToken (hcuts : t.Cuts (tokenText name ++ after)) (h : closing ∉ name) :
    ∃ t' : Template, t = t'.withToken name ∧ t'.Cuts after := by
  have hstarts : tokenText name ++ after = opening ++ (name ++ closing :: after) := by
    simp [tokenText]
  obtain ⟨_ | ⟨⟨before, name'⟩, tokens⟩, last⟩ := t
  · -- the last literal would be closed after the opening
    have hlast : last = [] ++ opening ++ (name ++ closing :: after) := by
      rw [List.nil_append, ← hstarts, ← hcuts.toText_eq]
      simp [toText]
    exact absurd (by simp) (hcuts.last _ _ hlast)
  · have heq := hcuts.toText_eq
    have hempty : before = [] := by
      refine Classical.not_not.1 fun hbefore => ?_
      rw [toText_cons, tokenText_eq, List.append_assoc, List.append_assoc, hstarts] at heq
      exact hcuts.literals _ (.head _) (opening_infix_of_append heq hbefore)
    subst hempty
    have hnames : name' ++ closing :: toText ⟨tokens, last⟩ = name ++ closing :: after := by
      rw [toText_cons, hstarts, tokenText_eq] at heq
      simpa using heq
    obtain ⟨rfl, rfl⟩ := eq_of_closed (hcuts.names _ (.head _)) h hnames
    exact ⟨⟨tokens, last⟩, rfl, hcuts.tail⟩

/-! ## A character of a literal -/

theorem Cuts.prepend (hcuts : t.Cuts rest) (h : ¬ opening <+: c :: rest) :
    (t.prepend c).Cuts (c :: rest) := by
  have htext : (t.prepend c).toText = c :: rest := by rw [toText_prepend, hcuts.toText_eq]
  obtain ⟨_ | ⟨⟨before, name⟩, tokens⟩, last⟩ := t
  · have hlast : last = rest := by simpa [toText] using hcuts.toText_eq
    refine ⟨htext, List.forall_mem_nil _, List.forall_mem_nil _, fun before after heq => ?_⟩
    replace heq : c :: last = before ++ opening ++ after := heq
    cases before with
    | nil => exact absurd ⟨after, by rw [← hlast, heq]; rfl⟩ h
    | cons _ before => exact hcuts.last before after (List.cons.inj heq).2
  · obtain ⟨hbefore, htail⟩ := List.forall_mem_cons.1 hcuts.literals
    refine ⟨htext, List.forall_mem_cons.2 ⟨fun hopens => ?_, htail⟩,
      List.forall_mem_cons.2 (List.forall_mem_cons.1 hcuts.names), hcuts.last⟩
    rcases List.infix_cons_iff.1 hopens with hstarts | hopens
    · refine h (hstarts.trans ⟨tokenText name ++ toText ⟨tokens, last⟩, ?_⟩)
      rw [← hcuts.toText_eq, toText_cons]
      simp
    · exact hbefore hopens

theorem Cuts.exists_prepend (hcuts : t.Cuts (c :: rest)) (h : ¬ opening <+: c :: rest) :
    ∃ t' : Template, t = t'.prepend c ∧ t'.Cuts rest := by
  obtain ⟨_ | ⟨⟨before, name⟩, tokens⟩, last⟩ := t
  · have hlast : last = c :: rest := by simpa [toText] using hcuts.toText_eq
    refine ⟨⟨[], rest⟩, by rw [hlast]; rfl, by simp [toText], List.forall_mem_nil _,
      List.forall_mem_nil _, ?_⟩
    rintro before after rfl
    exact hcuts.last (c :: before) after (by rw [hlast]; rfl)
  · have heq := hcuts.toText_eq
    rw [toText_cons] at heq
    cases before with
    | nil =>
      refine absurd ⟨name ++ [closing] ++ toText ⟨tokens, last⟩, ?_⟩ h
      rw [← heq, tokenText_eq]
      simp
    | cons d before =>
      obtain ⟨rfl, hrest⟩ := List.cons.inj heq
      obtain ⟨hliteral, htail⟩ := List.forall_mem_cons.1 hcuts.literals
      refine ⟨⟨(before, name) :: tokens, last⟩, rfl, by rw [toText_cons]; exact hrest,
        List.forall_mem_cons.2 ⟨fun hopens => ?_, htail⟩,
        List.forall_mem_cons.2 (List.forall_mem_cons.1 hcuts.names), hcuts.last⟩
      exact hliteral (hopens.trans (List.suffix_cons d before).isInfix)

/-! ## The one cut of a text -/

/-- A text with a token in front, as it is read. -/
theorem tokenText_of_cutOnce (h : Text.cutOnce closing rest = some (name, after)) :
    '\x7b' :: '@' :: rest = tokenText name ++ after := by
  rw [Text.cutOnce_eq_some h]
  simp [tokenText, opening]

theorem not_opens (h : ∀ r, c = '\x7b' → rest = '@' :: r → False) :
    ¬ opening <+: c :: rest := by
  rintro ⟨r, heq⟩
  simp only [opening, List.cons_append, List.nil_append, List.cons.injEq] at heq
  exact h r heq.1.symm heq.2.symm

theorem cuts_parse (s : List Char) : (parse s).Cuts s := by
  fun_induction parse s with
  | case1 => exact cuts_nil_iff.2 rfl
  | case2 rest h => exact cuts_unclosed (Text.cutOnce_eq_none h)
  | case3 rest name after h ih =>
    rw [tokenText_of_cutOnce h]
    exact ih.withToken (Text.not_mem_of_cutOnce h)
  | case4 c r h ih => exact ih.prepend (not_opens h)

theorem Cuts.eq_parse {s : List Char} (hcuts : t.Cuts s) : t = parse s := by
  fun_induction parse s generalizing t with
  | case1 => exact cuts_nil_iff.1 hcuts
  | case2 rest h => exact hcuts.eq_unclosed (Text.cutOnce_eq_none h)
  | case3 rest name after h ih =>
    rw [tokenText_of_cutOnce h] at hcuts
    obtain ⟨t', rfl, hcuts'⟩ := hcuts.exists_withToken (Text.not_mem_of_cutOnce h)
    rw [ih hcuts']
  | case4 c r h ih =>
    obtain ⟨t', rfl, hcuts'⟩ := hcuts.exists_prepend (not_opens h)
    rw [ih hcuts']

/-! ## What a cut yields -/

/-- What a token stands for: the value of its name, of which overrides come first, or itself if the
name is empty or not bound. -/
inductive Stands (hijacks : Hijacks) (vars : Vars) : List Char → List Char → Prop where
  | override {name : List Char} {value : String} : name ≠ [] →
      hijacks.get? (String.ofList name) = some value → Stands hijacks vars name value.toList
  | variable {name : List Char} {value : String} : name ≠ [] →
      hijacks.get? (String.ofList name) = none → vars.get? (String.ofList name) = some value →
      Stands hijacks vars name value.toList
  | nameless : Stands hijacks vars [] (tokenText [])
  | unbound {name : List Char} : hijacks.get? (String.ofList name) = none →
      vars.get? (String.ofList name) = none → Stands hijacks vars name (tokenText name)

/-- What a cut yields: its literals as they are, and between them what the tokens stand for. -/
inductive Yields (hijacks : Hijacks) (vars : Vars) : Template → List Char → Prop where
  | rest (last : List Char) : Yields hijacks vars ⟨[], last⟩ last
  | token {before name value last text : List Char} {tokens : List (List Char × List Char)} :
      Stands hijacks vars name value → Yields hijacks vars ⟨tokens, last⟩ text →
      Yields hijacks vars ⟨(before, name) :: tokens, last⟩ (before ++ value ++ text)

/-- The name of a token is not empty, and bound. -/
def Resolves (hijacks : Hijacks) (vars : Vars) (name : List Char) : Prop :=
  name ≠ [] ∧ ((hijacks.get? (String.ofList name)).isSome = true ∨
    (vars.get? (String.ofList name)).isSome = true)

variable {hijacks : Hijacks} {vars : Vars}

theorem stands_iff {value : List Char} :
    Stands hijacks vars name value ↔ value = tokenValue hijacks vars name := by
  constructor
  · rintro (⟨hname, hvalue⟩ | ⟨hname, hnone, hvalue⟩ | _ | ⟨hnone, hnone'⟩)
    · simp [tokenValue, resolve?, hname, hvalue]
    · simp [tokenValue, resolve?, hname, hnone, hvalue]
    · simp [tokenValue, resolve?]
    · simp [tokenValue, resolve?, hnone, hnone']
  · rintro rfl
    by_cases hname : name = []
    · subst hname
      exact .nameless
    · have hresolve : resolve? hijacks vars name =
          (hijacks.get? (String.ofList name)).or (vars.get? (String.ofList name)) := by
        simp [resolve?, hname]
      rw [tokenValue, hresolve]
      cases hover : hijacks.get? (String.ofList name) with
      | some value => exact .override hname hover
      | none =>
        cases hvalue : vars.get? (String.ofList name) with
        | some value => exact .variable hname hover hvalue
        | none => exact .unbound hover hvalue

theorem yields_iff {text : List Char} :
    Yields hijacks vars t text ↔ text = t.expand hijacks vars := by
  obtain ⟨tokens, last⟩ := t
  induction tokens generalizing text with
  | nil =>
    have hexpand : expand hijacks vars ⟨[], last⟩ = last := List.nil_append last
    rw [hexpand]
    constructor
    · rintro ⟨⟩
      rfl
    · rintro rfl
      exact .rest _
  | cons token tokens ih =>
    obtain ⟨before, name⟩ := token
    have hexpand : expand hijacks vars ⟨(before, name) :: tokens, last⟩ =
        before ++ tokenValue hijacks vars name ++ expand hijacks vars ⟨tokens, last⟩ := by
      simp [expand]
    constructor
    · rintro ⟨⟩
      rename_i hstands hyields
      rw [hexpand, stands_iff.1 hstands, ih.1 hyields]
    · rintro rfl
      rw [hexpand]
      exact .token (stands_iff.2 rfl) (ih.2 rfl)

theorem expand_of_unresolved (h : ∀ token ∈ t.tokens, ¬ Resolves hijacks vars token.2) :
    t.expand hijacks vars = t.toText := by
  have hvalue (token : List Char × List Char) (hmem : token ∈ t.tokens) :
      token.1 ++ tokenValue hijacks vars token.2 = token.1 ++ tokenText token.2 := by
    by_cases hname : token.2 = []
    · simp [tokenValue, resolve?, hname]
    · have hnone := h token hmem
      simp only [Resolves, ne_eq, hname, not_false_eq_true, true_and, not_or, Bool.not_eq_true,
        Option.isSome_eq_false_iff, Option.isNone_iff_eq_none] at hnone
      simp [tokenValue, resolve?, hname, hnone.1, hnone.2]
  rw [expand, toText, List.flatMap_def, List.map_congr_left hvalue, ← List.flatMap_def]

end Template

/-! ## Line feeds -/

/-- To put line feeds in is to replace each backslash followed by `n`. -/
theorem putLineFeeds_eq_replace (s : List Char) :
    putLineFeeds s = Text.replace ['\\', 'n'] ['\n'] s := by
  unfold Text.replace
  fun_induction putLineFeeds s with
  | case1 r ih => simp [Text.replaceFrom, ih]
  | case2 c r h ih =>
    rw [Text.replaceFrom, if_neg, ih]
    intro hstarts
    obtain ⟨r', heq⟩ := List.isPrefixOf_iff_prefix.1 hstarts
    simp only [List.cons_append, List.nil_append, List.cons.injEq] at heq
    exact h r' heq.1.symm heq.2.symm
  | case3 => rfl

/-- **A text stands for what its one cut yields**, with line feeds put in last. A text of which no
token resolves yields itself. -/
theorem substitute_of_cut (hijacks : Hijacks) (vars : Vars) (raw : String) :
    ∃ t : Template, t.Cuts raw.toList ∧ (∀ t' : Template, t'.Cuts raw.toList → t' = t) ∧
      ∃ text, t.Yields hijacks vars text ∧ (∀ text', t.Yields hijacks vars text' → text' = text) ∧
        substitute hijacks vars raw = String.ofList (Text.replace ['\\', 'n'] ['\n'] text) ∧
        ((∀ token ∈ t.tokens, ¬ Template.Resolves hijacks vars token.2) → text = raw.toList) := by
  refine ⟨Template.parse raw.toList, Template.cuts_parse _, fun t' h => h.eq_parse,
    _, Template.yields_iff.2 rfl, fun text' h => Template.yields_iff.1 h, ?_, fun h => ?_⟩
  · rw [substitute, putLineFeeds_eq_replace]
  · rw [Template.expand_of_unresolved h, Template.toText_parse]

/-- A name may hold an opening, and a value is not searched for tokens. -/
example : substitute [] (({} : Vars).put "a\x7b@b" "\x7b@a\x7d")
    "\x7b\x7b@a\x7b@b\x7d\x7b@\x7d\x7b@a" = "\x7b\x7b@a\x7d\x7b@\x7d\x7b@a" := by
  decide +kernel

end PageScript
