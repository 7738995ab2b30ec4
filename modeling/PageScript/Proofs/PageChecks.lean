import Mathlib.Logic.Relation
import PageScript.Proofs.ActEndings
import PageScript.Proofs.WindowSearch
import PageScript.Proofs.Scenes
import PageScript.Proofs.Verdicts

/-!
# What page checks report

Before a page is checked, the whitelisted texts are cut out of it, one after another in the order of
their names, and each cut closes up. So what is reported stands on the page, or else some span of the
page becomes it once whitelisted texts are cut out of the span. Where no whitelisted text is on the page,
exactly the forbidden texts that are on it are reported.

Cuts are followed one at a time (`Text.CutOut`): whatever stands in a text after a cut has come from a
span of the text before (`Text.CutOut.exists_span`). What a whole whitelist does is a sequence of such
cuts, in whatever order they are made and however the texts overlap.
-/

namespace PageScript

/-! ## Cuts -/

namespace Text

variable {texts : List String} {s t text : List Char}

/-- One of some texts is cut out, and what stands around it closes up. -/
inductive CutOut (texts : List String) : List Char → List Char → Prop where
  | cut {old : String} (before after : List Char) (hmem : old ∈ texts) (hne : old ≠ "") :
      CutOut texts (before ++ old.toList ++ after) (before ++ after)

/-- One cut after another is made, or none. -/
abbrev Thinned (texts : List String) : List Char → List Char → Prop :=
  Relation.ReflTransGen (CutOut texts)

namespace CutOut

theorem cons (c : Char) (h : CutOut texts s t) : CutOut texts (c :: s) (c :: t) := by
  cases h with
  | cut before after hmem hne => exact .cut (c :: before) after hmem hne

theorem exists_infix (h : CutOut texts s t) : ∃ old ∈ texts, old ≠ "" ∧ old.toList <:+: s := by
  cases h with
  | cut before after hmem hne => exact ⟨_, hmem, hne, before, after, rfl⟩

/-- What stands in a text after a cut has come from a span of the text before. -/
theorem exists_span (h : CutOut texts s t) (hin : text <:+: t) :
    ∃ span, span <:+: s ∧ Thinned texts span text := by
  cases h with
  | @cut old before after hmem hne =>
    obtain ⟨left, right, heq⟩ := hin
    rcases List.append_eq_append_iff.1 heq with ⟨x, hbefore, -⟩ | ⟨x, hleft, hafter⟩
    · -- it ends before the cut
      refine ⟨text, ⟨left, x ++ old.toList ++ after, ?_⟩, .refl⟩
      rw [hbefore]
      simp only [List.append_assoc]
    · rcases List.append_eq_append_iff.1 hleft with ⟨y, hbefore, htext⟩ | ⟨y, hstart, hx⟩
      · -- it begins before the cut and ends after it
        refine ⟨y ++ old.toList ++ x, ⟨left, right, ?_⟩, .single ?_⟩
        · rw [hbefore, hafter]
          simp only [List.append_assoc]
        · rw [htext]
          exact .cut y x hmem hne
      · -- it begins after the cut
        refine ⟨text, ⟨before ++ old.toList ++ y, right, ?_⟩, .refl⟩
        rw [hafter, hx]
        simp only [List.append_assoc]

end CutOut

namespace Thinned

theorem cons (c : Char) (h : Thinned texts s t) : Thinned texts (c :: s) (c :: t) :=
  h.lift (c :: ·) fun _ _ => CutOut.cons c

theorem exists_span (h : Thinned texts s t) (hin : text <:+: t) :
    ∃ span, span <:+: s ∧ Thinned texts span text := by
  induction h generalizing text with
  | refl => exact ⟨text, hin, .refl⟩
  | tail _ hcut ih =>
    obtain ⟨middle, hmiddle, hlast⟩ := hcut.exists_span hin
    obtain ⟨span, hspan, hearlier⟩ := ih hmiddle
    exact ⟨span, hspan, hearlier.trans hlast⟩

/-- Where none of the texts stands nothing is cut out. -/
theorem eq_of_absent (h : Thinned texts s t)
    (habsent : ∀ old ∈ texts, old ≠ "" → ¬ old.toList <:+: s) : t = s := by
  rcases h.cases_head with heq | ⟨_, hcut, -⟩
  · exact heq.symm
  · obtain ⟨old, hmem, hne, hin⟩ := hcut.exists_infix
    exact absurd hin (habsent old hmem hne)

end Thinned

theorem thinned_replaceFrom {old : String} (hmem : old ∈ texts) (hne : old ≠ "") (skip : Nat)
    (s : List Char) : Thinned texts (s.drop skip) (replaceFrom old.toList [] skip s) := by
  induction s generalizing skip with
  | nil =>
    rw [List.drop_nil, replaceFrom]
  | cons c r ih =>
    cases skip with
    | succ skip =>
      rw [replaceFrom]
      exact ih skip
    | zero =>
      rw [replaceFrom, List.drop_zero]
      split
      · rename_i hprefix
        obtain ⟨after, hafter⟩ := List.isPrefixOf_iff_prefix.1 hprefix
        have hpos : 0 < old.toList.length :=
          List.length_pos_of_ne_nil fun hnil => hne (String.toList_eq_nil_iff.1 hnil)
        have hrest : r.drop (old.toList.length - 1) = after := by
          have hdrop := congrArg (List.drop old.toList.length) hafter
          rw [List.drop_left] at hdrop
          obtain ⟨n, hn⟩ := Nat.exists_eq_succ_of_ne_zero hpos.ne'
          rw [hn] at hdrop ⊢
          exact hdrop.symm
        -- the place is cut out, and what stands after it is gone through in the same way
        have hrec := ih (old.toList.length - 1)
        rw [hrest] at hrec
        rw [← hafter]
        exact .head (.cut [] after hmem hne) hrec
      · exact (ih 0).cons c

/-- To erase a text is to cut out every place where it stands. -/
theorem thinned_erase {old : String} (hmem : old ∈ texts) (hne : old ≠ "") (page : String) :
    Thinned texts page.toList (erase page old).toList := by
  rw [erase, String.toList_ofList]
  exact thinned_replaceFrom hmem hne 0 page.toList

end Text

theorem Act.thinned_passOver (whitelist : Bindings String) (page : String) :
    Text.Thinned (whitelist.map (·.2)) page.toList (passOver whitelist page).1.toList := by
  unfold passOver
  refine List.foldlRecOn (b := (page, [])) (motive := fun acc : String × List String =>
    Text.Thinned (whitelist.map (·.2)) page.toList acc.1.toList) whitelist.sorted _ .refl ?_
  intro acc hacc entry hentry
  have hmem : entry.2 ∈ whitelist.map (·.2) :=
    List.mem_map_of_mem ((List.mergeSort_perm _ _).mem_iff.1 hentry)
  dsimp only
  split
  · rename_i hcond
    rw [Bool.and_eq_true, Bool.not_eq_true'] at hcond
    refine hacc.trans (Text.thinned_erase hmem ?_ _)
    intro hnil
    rw [hnil] at hcond
    exact absurd hcond.1 (by decide)
  · exact hacc

/-! ## Reports -/

/-- The report of a forbidden text. -/
def Report.forbidden (text : String) : Report :=
  .error ("Page check failed: found '" ++ text ++ "'.")

theorem Report.forbidden_injective : Function.Injective Report.forbidden := by
  intro text other heq
  have hmessage := congrArg String.toList (Report.error.inj heq)
  simp only [String.toList_append] at hmessage
  exact String.toList_injective (List.append_cancel_left (List.append_cancel_right hmessage))

variable {σ : Type} {o : Outside σ} {setup : Setup} {s : Session} {w w' : World σ}

/-- A call that is made reports nothing, whether it is answered or not. -/
theorem World.reports_of_call {g : Guard} {c : Call} {x : Except Cut (Except BrowserError c.Answer)}
    (h : w.step o g (.act (.call c)) = (x, w')) : w'.reports = w.reports := by
  have helapses := World.elapses_step o g w (.act (.call c))
  rw [h] at helapses
  refine helapses.adds.reports_eq.trans ?_
  exact (reports_happen w (.called c)).trans (List.append_nil _)

namespace Stretch

/-- What is said of one thing after another is reported in their order. -/
theorem leads_play_forM {α : Type} {f : α → Act Unit} (told : α → Option Report)
    (hf : ∀ x w, Leads o ((f x).play setup) s w fun r s' w' =>
      r = .ok () ∧ s' = s ∧ w'.reports = w.reports ++ (told x).toList) (xs : List α) (w : World σ) :
    Leads o (Act.play setup (xs.forM f)) s w fun r s' w' =>
      r = .ok () ∧ s' = s ∧ w'.reports = w.reports ++ xs.filterMap told := by
  induction xs generalizing w with
  | nil =>
    refine leads_play_pure () |>.2 ⟨rfl, rfl, ?_⟩
    rw [List.filterMap_nil, List.append_nil]
  | cons x xs ih =>
    rw [List.forM, leads_play_bind]
    refine (hf x w).mono fun r s₁ w₁ hx => ?_
    obtain ⟨rfl, rfl, hreports⟩ := hx
    refine (ih w₁).mono fun r s' w' hxs => ⟨hxs.1, hxs.2.1, ?_⟩
    rw [hxs.2.2, hreports, List.append_assoc]
    cases h : told x with
    | none => rw [List.filterMap_cons_none h]; rfl
    | some r => rw [List.filterMap_cons_some h]; rfl

end Stretch

namespace Act

open Stretch

/-- What is left of a page is checked for each forbidden text. -/
theorem leads_checks (left : String) (checks : List String) (w : World σ) :
    Leads o (Act.play setup (checks.forM fun text =>
      if Text.contains left text then error ("Page check failed: found '" ++ text ++ "'.")
      else pure ())) s w fun r s' w' => r = .ok () ∧ s' = s ∧
        w'.reports = w.reports ++ (checks.filter (Text.contains left)).map Report.forbidden := by
  rw [← List.filterMap_eq_filter, List.map_filterMap]
  refine leads_play_forM _ (fun text w => ?_) checks w
  cases hin : Text.contains left text with
  | true =>
    rw [if_pos rfl, Act.error, leads_play_say, Option.guard, if_pos hin]
    exact ⟨rfl, rfl, World.reports_say w _⟩
  | false =>
    rw [if_neg Bool.false_ne_true, leads_play_pure, Option.guard,
      if_neg (Bool.eq_false_iff.1 hin)]
    exact ⟨rfl, rfl, (List.append_nil _).symm⟩

/-- The names of whitelisted texts go to the log only. -/
theorem leads_noteIgnored (names : List String) (w : World σ) :
    Leads o (Act.play setup (names.forM fun name =>
      note .debug .commands "Ignoring whitelisted text" [("whitelist", name)])) s w
      fun r s' w' => r = .ok () ∧ s' = s ∧ w'.reports = w.reports := by
  refine (leads_play_forM (fun _ => none) (fun name w => ?_) names w).mono ?_
  · rw [note, leads_play_say]
    exact ⟨rfl, rfl, World.reports_say w _⟩
  · intro r s' w' h
    refine ⟨h.1, h.2.1, h.2.2.trans ?_⟩
    rw [List.filterMap_eq_nil_iff.2 fun _ _ => rfl, List.append_nil]

end Act

/-- A text is spotted on a page: it stands there, or a span of the page becomes it once some of these
texts are cut out of the span, one after another. -/
def Text.Spotted (texts : List String) (page text : String) : Prop :=
  text.toList <:+: page.toList ∨
    ∃ span, span <:+: page.toList ∧ Relation.TransGen (CutOut texts) span text.toList

/-- What stands in what is left of a page is spotted on the page. -/
theorem Text.Thinned.spotted {texts : List String} {page left text : String}
    (h : Thinned texts page.toList left.toList) (hin : contains left text = true) :
    Spotted texts page text := by
  obtain ⟨span, hspan, hthinned⟩ := h.exists_span (contains_iff.1 hin)
  rcases Relation.reflTransGen_iff_eq_or_transGen.1 hthinned with heq | hcuts
  · rw [← heq] at hspan
    exact .inl hspan
  · exact .inr ⟨span, hspan, hcuts⟩

/-- What is reported of a page that passes over the texts of a whitelist. -/
structure Sifted (setup : Setup) (whitelist : Bindings String) (page : String)
    (reports : List Report) : Prop where
  reports_eq : reports = (setup.pageChecks.filter
    (Text.contains (Act.passOver whitelist page).1)).map Report.forbidden
  /-- A forbidden text that is reported is spotted on the page. -/
  spotted : ∀ text, .forbidden text ∈ reports →
    text ∈ setup.pageChecks ∧ Text.Spotted (whitelist.map (·.2)) page text
  /-- Where there is nothing to pass over, just the forbidden texts on the page are reported. -/
  plain : (∀ p ∈ whitelist, p.2 ≠ "" → ¬ p.2.toList <:+: page.toList) →
    reports = (setup.pageChecks.filter (Text.contains page)).map Report.forbidden

/-- What is left of a page decides what is reported of it. -/
theorem sifted (setup : Setup) (whitelist : Bindings String) (page : String) :
    Sifted setup whitelist page ((setup.pageChecks.filter
      (Text.contains (Act.passOver whitelist page).1)).map Report.forbidden) := by
  have hthinned := Act.thinned_passOver whitelist page
  refine ⟨rfl, ?_, ?_⟩
  · intro text hmem
    obtain ⟨check, hcheck, heq⟩ := List.mem_map.1 hmem
    rw [Report.forbidden_injective heq] at hcheck
    obtain ⟨hgiven, hin⟩ := List.mem_filter.1 hcheck
    exact ⟨hgiven, hthinned.spotted hin⟩
  · intro habsent
    have hsame : (Act.passOver whitelist page).1 = page := by
      refine String.toList_injective (hthinned.eq_of_absent fun old hmem hne => ?_)
      obtain ⟨p, hp, rfl⟩ := List.mem_map.1 hmem
      exact habsent p hp hne
    rw [hsame]

/-- **Page checks report what they spot.** A check of the page in use reports the forbidden texts that
stand in what the whitelist leaves of the page as the browser has answered it. Each of them is on the
page or comes about where a whitelisted text has been cut out, and where none is on the page they are
the forbidden texts of the page. If there is no such answer nothing is reported. -/
theorem sifted_of_checkPage (setup : Setup) (o : Outside σ) (s : Session) (w : World σ) :
    Stretch.Lands o ((Act.checkPage setup).play setup) s w fun r s' w' => s' = s ∧
      ((∃ m, r = .error m) ∧ w'.reports = w.reports ∨
        r = .ok () ∧ ∃ page seen reports, w.Called o .pageSource (.ok page) seen ∧
          w'.reports = w.reports ++ reports ∧ Sifted setup s.whitelist page reports) := by
  refine (Act.finishes_play _).lands ?_
  rw [Act.checkPage, Stretch.leads_play_bind]
  refine Stretch.leads_play_call (fun _ => ⟨rfl, .inl ⟨⟨_, rfl⟩, rfl⟩⟩) ?_
  intro _ r seen hstep
  have hquiet := World.reports_of_call hstep
  rcases r with cut | e | page
  · exact ⟨rfl, .inl ⟨⟨_, rfl⟩, hquiet⟩⟩
  · exact ⟨rfl, .inl ⟨⟨_, rfl⟩, hquiet⟩⟩
  · dsimp only
    rw [Stretch.leads_play_bind, Act.session, Stretch.leads_play_move, Move.play, Stretch.leads_get]
    dsimp only
    rw [Stretch.leads_play_bind]
    refine (Act.leads_noteIgnored _ _).mono ?_
    rintro _ _ noted ⟨rfl, rfl, hnoted⟩
    refine (Act.leads_checks _ _ _).mono ?_
    intro r s' w' h
    refine ⟨h.2.1, .inr ⟨h.1, page, seen, _, World.called_of_step hstep, ?_, sifted ..⟩⟩
    rw [h.2.2, hnoted, hquiet]

/-! ## A text that is not there -/

/-- An outside that shows one page. -/
def Outside.showing (page : String) : Outside Unit
  | .call .currentWindow, s => .answer s (.ok "main")
  | .call .pageSource, s => .answer s (.ok page)
  | _, s => { start := s, ending := none }

/-- A text that is passed over, and then a check of the page. -/
def checkedEvents : List Event :=
  [{ kind := .command .whitelist, name := "whitelist",
      actions := ⟨[("name", .text "dashes"), ("content", .text "--")]⟩ },
    { kind := .command .browser, name := "browser", actions := ⟨[("assertpage", .flag true)]⟩ }]

/-- **A text is reported that is not on the page**: what is passed over stands within it. -/
theorem reported_unseen :
    Text.contains "fo--o" "foo" = false ∧
    (({ Setup.small with pageChecks := ["foo"] } : Setup).run (.showing "fo--o")
        ⟨2020, 1, 1, 0, 0, 0⟩ none checkedEvents ()).map (fun ended => ended.world.reports) =
      some [.log "Running test 'small'...", .log "whitelist event started...",
        .log "Adding whitelist entry 'dashes'.", .log "whitelist event finished.",
        .log "browser event started...", .error "Page check failed: found 'foo'.",
        .log "browser event finished."] := by
  constructor
  · decide +kernel
  · decide +kernel

end PageScript
