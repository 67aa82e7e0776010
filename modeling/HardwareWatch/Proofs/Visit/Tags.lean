import HardwareWatch.Proofs.Text.Numerals
import HardwareWatch.Proofs.Visit.Staging

/-!
# Directives that name a tag

A tag in a directive is folded to lower case by the full mapping of the Unicode standard, and is
then compared with the tags of a connector up to the case of ASCII letters. So a connector need not
be found under a tag that it has: a capital letter beyond ASCII is lost in the directive and kept in
the tag.

* `Chars.FoldsAlike` is about the characters that come out of both foldings alike, and
  `Chars.lowercaseAscii_lowercase_iff` about the texts that are made of them.
* `Connector.AnswersTo` is the exact condition under which a connector is found under one of its
  tags.
* `staged_by_tag_iff` says what becomes of a connector when a directive names one of its tags.
-/

namespace HardwareWatch

/-! ## The two foldings -/

namespace Chars

/-- The character is one of ASCII, or it is its own lower-case form. -/
def FoldsAlike (c : Char) : Prop := c.toNat < 0x80 ∨ lowercase [c] = [c]

instance (c : Char) : Decidable (FoldsAlike c) := inferInstanceAs (Decidable (_ ∨ _))

section

variable {c d : Char}

theorem toLower_of_ascii (h : c.toNat < 0x80) :
    c.toLower.toNat < 0x80 ∧ c.toLower.toLower = c.toLower := by
  have hall : ∀ n < 0x80, (Char.ofNat n).toLower.toNat < 0x80 ∧
      (Char.ofNat n).toLower.toLower = (Char.ofNat n).toLower := by decide +kernel
  simpa only [Char.ofNat_toNat] using hall c.toNat h

theorem toLower_of_not_ascii (h : ¬c.toNat < 0x80) : c.toLower = c := by
  refine dif_neg fun hupper => h ?_
  have hz : c.toNat ≤ 'Z'.toNat := hupper.2
  exact hz.trans_lt (by decide)

/-- Beyond ASCII nothing but the character itself becomes the character. -/
theorem toLower_eq_iff_of_not_ascii (h : ¬c.toNat < 0x80) : d.toLower = c ↔ d = c := by
  by_cases hd : d.toNat < 0x80
  · exact ⟨fun he => absurd (toLower_of_ascii hd).1 (he ▸ h), fun he => absurd hd (he ▸ h)⟩
  · rw [toLower_of_not_ascii hd]

theorem lowercase_singleton (hsigma : c ≠ 'Σ') (hdotted : c ≠ 'İ') :
    lowercase [c] = [lowercaseChar c] := by
  simp [lowercase, lowercaseAfter, hsigma, hdotted]

theorem toLower_lowercaseChar_iff (hsigma : c ≠ 'Σ') (hdotted : c ≠ 'İ') :
    (lowercaseChar c).toLower = c.toLower ↔ FoldsAlike c := by
  rw [FoldsAlike, lowercase_singleton hsigma hdotted, List.cons.injEq, and_iff_left rfl]
  by_cases h : c.toNat < 0x80
  · have hlower : lowercaseChar c = c.toLower := if_pos h
    simp only [hlower, (toLower_of_ascii h).2, h, true_or]
  · rw [toLower_of_not_ascii h, toLower_eq_iff_of_not_ascii h, or_iff_right h]

end

theorem lowercaseAscii_lowercaseAfter_iff (before s : Chars) :
    lowercaseAscii (lowercaseAfter before s) = lowercaseAscii s ↔ ∀ c ∈ s, FoldsAlike c := by
  induction s generalizing before with
  | nil => simp [lowercaseAfter, lowercaseAscii]
  | cons c s ih =>
    rw [List.forall_mem_cons, ← ih (c :: before), lowercaseAfter]
    -- The two letters that do not become one letter, whatever stands around them, differ at once.
    by_cases hsigma : c = 'Σ'
    · subst hsigma
      have hnot : ¬FoldsAlike 'Σ' := by decide +kernel
      refine iff_of_false (fun he => ?_) fun he => hnot he.1
      simp only [beq_self_eq_true, if_true] at he
      have hhead := (List.cons.inj he).1
      split at hhead <;> exact absurd hhead (by decide)
    by_cases hdotted : c = 'İ'
    · subst hdotted
      have hnot : ¬FoldsAlike 'İ' := by decide +kernel
      refine iff_of_false (fun he => ?_) fun he => hnot he.1
      exact absurd (List.cons.inj he).1 (by decide)
    · simp [hsigma, hdotted, lowercaseAscii, toLower_lowercaseChar_iff hsigma hdotted]

/-- A text is kept by the full folding, up to the case of ASCII letters, exactly if all its
characters are. -/
theorem lowercaseAscii_lowercase_iff (s : Chars) :
    lowercaseAscii (lowercase s) = lowercaseAscii s ↔ ∀ c ∈ s, FoldsAlike c :=
  lowercaseAscii_lowercaseAfter_iff [] s

end Chars

theorem Text.trim_eq_self_iff {s : String} : Text.trim s = s ↔ Chars.trim s.toList = s.toList := by
  rw [← Text.toList_trim, String.toList_inj]

/-! ## A directive with a tag -/

namespace Directive

variable {tag : String}

theorem includeTag_isSaidBy (h : Text.trim tag = tag) :
    (includeTag (Text.lowercase tag)).IsSaidBy ("#" ++ tag) := by
  have htext : ("#" ++ tag).toList = '#' :: tag.toList := String.toList_append
  have htag : Chars.trim tag.toList = tag.toList := Text.trim_eq_self_iff.1 h
  refine ⟨by rw [Text.isBlank, htext]; rfl, tag.toList, ⟨tag.toList, ?_, htag⟩, nofun, ?_⟩
  · rw [htext, Chars.trim_cons rfl htag]
  · rw [String.ofList_toList, name]

theorem excludeTag_isSaidBy (h : Text.trim tag = tag) :
    (excludeTag (Text.lowercase tag)).IsSaidBy ("!#" ++ tag) := by
  have htext : ("!#" ++ tag).toList = '!' :: '#' :: tag.toList := String.toList_append
  have htag : Chars.trim tag.toList = tag.toList := Text.trim_eq_self_iff.1 h
  have hmark : Chars.trim ('#' :: tag.toList) = '#' :: tag.toList := Chars.trim_cons rfl htag
  refine ⟨by rw [Text.isBlank, htext]; rfl, tag.toList,
    ⟨'#' :: tag.toList, ?_, tag.toList, hmark, htag⟩, nofun, ?_⟩
  · rw [htext, Chars.trim_cons rfl hmark]
  · rw [String.ofList_toList, name]

end Directive

/-- The connector is found under the lower-case form of a tag: the tag has no letter that only the
full folding changes, or another tag of the connector is that form. -/
def Connector.AnswersTo (c : Connector) (tag : String) : Prop :=
  (∀ ch ∈ tag.toList, Chars.FoldsAlike ch) ∨
    ∃ tag' ∈ c.tags, tag' ≠ tag ∧ Text.sameIgnoringCase tag' (Text.lowercase tag) = true

section

variable {c : Connector} {tag : String} {host : HostSettings} {connectors : List Connector}

theorem sameIgnoringCase_lowercase_iff :
    Text.sameIgnoringCase tag (Text.lowercase tag) = true ↔
      ∀ ch ∈ tag.toList, Chars.FoldsAlike ch := by
  rw [Text.sameIgnoringCase, Text.lowercase, String.toList_ofList, Chars.sameIgnoringCase,
    beq_iff_eq, eq_comm, Chars.lowercaseAscii_lowercase_iff]

theorem hasTag_lowercase_iff (hmem : tag ∈ c.tags) :
    c.hasTag (Text.lowercase tag) = true ↔ c.AnswersTo tag := by
  rw [Connector.hasTag, List.any_eq_true, Connector.AnswersTo, ← sameIgnoringCase_lowercase_iff]
  constructor
  · rintro ⟨tag', hmem', hsame⟩
    obtain rfl | hne := eq_or_ne tag' tag
    · exact .inl hsame
    · exact .inr ⟨tag', hmem', hne, hsame⟩
  · rintro (hsame | ⟨tag', hmem', -, hsame⟩)
    · exact ⟨tag, hmem, hsame⟩
    · exact ⟨tag', hmem', hsame⟩

/-! ## What becomes of the connector -/

namespace HostSettings

theorem wants_excludingTag_iff (h : Text.trim tag = tag) {d : Directive} :
    (host.withDirective ("!#" ++ tag)).Wants d ↔
      d = .excludeTag (Text.lowercase tag) ∨ host.Wants d := by
  refine wants_withDirective_iff.trans (or_congr_left ⟨fun hsaid => ?_, ?_⟩)
  · exact hsaid.unique (Directive.excludeTag_isSaidBy h)
  · rintro rfl
    exact Directive.excludeTag_isSaidBy h

theorem forces_excludingTag_iff (h : Text.trim tag = tag) :
    (host.withDirective ("!#" ++ tag)).Forces c ↔ host.Forces c :=
  (wants_excludingTag_iff h).trans (or_iff_right nofun)

/-- A directive that excludes a tag excludes what has it, and does nothing else. -/
theorem admits_excludingTag_iff (h : Text.trim tag = tag) :
    (host.withDirective ("!#" ++ tag)).Admits c ↔
      host.Admits c ∧ ¬c.hasTag (Text.lowercase tag) = true := by
  have hother {d : Directive} (hd : d ≠ .excludeTag (Text.lowercase tag)) :
      (host.withDirective ("!#" ++ tag)).Wants d ↔ host.Wants d :=
    (wants_excludingTag_iff h).trans (or_iff_right hd)
  have hexcludes : (host.withDirective ("!#" ++ tag)).Excludes c ↔
      host.Excludes c ∨ c.hasTag (Text.lowercase tag) = true := by
    simp only [Excludes, wants_excludingTag_iff h, reduceCtorEq, false_or,
      Directive.excludeTag.injEq, or_and_right, exists_or, exists_eq_left]
    rw [or_comm (a := c.hasTag _ = true), or_assoc]
  have hid : (host.withDirective ("!#" ++ tag)).IncludesById c ↔ host.IncludesById c :=
    hother (by simp)
  have hincludes : (host.withDirective ("!#" ++ tag)).Includes c ↔ host.Includes c := by
    simp only [Includes, hid, hother, ne_eq, reduceCtorEq, not_false_eq_true]
  have hinclusions : (∃ name, (host.withDirective ("!#" ++ tag)).Wants (.includeId name) ∨
      (host.withDirective ("!#" ++ tag)).Wants (.includeTag name)) ↔
      ∃ name, host.Wants (.includeId name) ∨ host.Wants (.includeTag name) := by
    simp only [hother, ne_eq, reduceCtorEq, not_false_eq_true]
  constructor
  · rintro ⟨hnot, hincluded, hautomatic, happlies⟩
    rw [hexcludes, not_or] at hnot
    rw [hinclusions, hincludes] at hincluded
    rw [hid] at hautomatic
    exact ⟨⟨hnot.1, hincluded, hautomatic, happlies⟩, hnot.2⟩
  · rintro ⟨⟨hnot, hincluded, hautomatic, happlies⟩, htag⟩
    refine ⟨?_, ?_, ?_, happlies⟩
    · rw [hexcludes, not_or]
      exact ⟨hnot, htag⟩
    · rw [hinclusions, hincludes]
      exact hincluded
    · rw [hid]
      exact hautomatic

theorem wants_includingTag_iff (h : Text.trim tag = tag)
    (honly : host.directives.keys = ["#" ++ tag]) {d : Directive} :
    host.Wants d ↔ d = .includeTag (Text.lowercase tag) := by
  rw [Wants, honly]
  simp only [List.mem_singleton, exists_eq_left]
  constructor
  · exact fun hsaid => hsaid.unique (Directive.includeTag_isSaidBy h)
  · rintro rfl
    exact Directive.includeTag_isSaidBy h

/-- Where a tag is all that is asked for, what has it is admitted if nothing else is against it. -/
theorem admits_includingTag_iff (h : Text.trim tag = tag)
    (honly : host.directives.keys = ["#" ++ tag]) :
    host.Admits c ↔ c.detection.disableAutoDetection = false ∧
      (c.detection.appliesTo = [] ∨ host.kind ∈ c.detection.appliesTo) ∧
      c.hasTag (Text.lowercase tag) = true := by
  have hwants {d : Directive} := wants_includingTag_iff h honly (d := d)
  have hexcludes : ¬host.Excludes c := by
    simp [Excludes, hwants]
  have hid : ¬host.IncludesById c := by
    simp [IncludesById, hwants]
  have hincludes : host.Includes c ↔ c.hasTag (Text.lowercase tag) = true := by
    simp [Includes, hid, hwants]
  constructor
  · rintro ⟨-, hincluded, hautomatic, happlies⟩
    refine ⟨hautomatic.resolve_right hid, happlies, hincludes.1 (hincluded ?_)⟩
    exact ⟨_, .inr (hwants.2 rfl)⟩
  · rintro ⟨hautomatic, happlies, htag⟩
    exact ⟨hexcludes, fun _ => hincludes.2 htag, .inl hautomatic, happlies⟩

end HostSettings

/-- **What becomes of a connector whose tag a directive names.** A directive that excludes the tag
leaves those staged that are forced, and others only if they do not answer to the tag. Where nothing
is asked for but the tag, a connector is staged exactly if it answers to it, may be detected without
being asked for and applies to the host. -/
theorem staged_by_tag_iff (hmem : tag ∈ c.tags) (htrim : Text.trim tag = tag)
    (hc : c ∈ (ConnectorStore.ofConnectors connectors).values) (host : HostSettings) :
    (c ∈ (stagedOf connectors (host.withDirective ("!#" ++ tag))).map (·.connector) ↔
      host.Forces c ∨ host.Admits c ∧ ¬c.AnswersTo tag) ∧
    (host.directives.keys = ["#" ++ tag] →
      (⟨c, false⟩ ∈ stagedOf connectors host ↔ c.detection.disableAutoDetection = false ∧
        (c.detection.appliesTo = [] ∨ host.kind ∈ c.detection.appliesTo) ∧ c.AnswersTo tag)) := by
  constructor
  · rw [mem_map_connector_stagedOf_iff, and_iff_right hc,
      HostSettings.forces_excludingTag_iff htrim, HostSettings.admits_excludingTag_iff htrim,
      hasTag_lowercase_iff hmem]
  · intro honly
    have hforces : ¬host.Forces c :=
      fun h => nomatch (HostSettings.wants_includingTag_iff htrim honly).1 h
    rw [mem_stage_iff, and_iff_right hc, if_neg Bool.false_ne_true, and_iff_right hforces,
      HostSettings.admits_includingTag_iff htrim honly, hasTag_lowercase_iff hmem]

end

/-! ## A tag with a capital letter beyond ASCII -/

namespace SchoolTags

/-- A connector with two tags. -/
def school : Connector :=
  ⟨1, "school", none, none, ["École", "Paris"], ⟨[], false, [], []⟩, .empty, .empty, [], .empty⟩

/-- A host with a directive. -/
def host (directive : String) : HostSettings :=
  { HostSettings.named "srv" .linux with directives := .ofNames [directive] }

/-- Excluded by its second tag the connector is not staged, and asked for by it it is. -/
theorem staged_by_second_tag :
    (school ∉ (stagedOf [school] (host "!#Paris")).map (·.connector)) ∧
      ⟨school, false⟩ ∈ stagedOf [school] (host "#Paris") := by
  have hmem : "Paris" ∈ school.tags := by decide
  have htrim : Text.trim "Paris" = "Paris" := Text.trim_eq_self_iff.2 (by decide +kernel)
  have hstore : school ∈ (ConnectorStore.ofConnectors [school]).values := by decide +kernel
  have hanswers : school.AnswersTo "Paris" :=
    .inl (sameIgnoringCase_lowercase_iff.1 (by decide +kernel))
  have hforces : ¬(HostSettings.named "srv" .linux).Forces school := by
    have hnothing : (HostSettings.named "srv" .linux).directives.keys = [] := rfl
    rintro ⟨directive, h, -⟩
    rw [hnothing] at h
    exact absurd h List.not_mem_nil
  constructor
  · refine mt (staged_by_tag_iff hmem htrim hstore (.named "srv" .linux)).1.1 ?_
    exact fun h => h.elim hforces fun h => h.2 hanswers
  · have honly : (host "#Paris").directives.keys = ["#" ++ "Paris"] := by decide +kernel
    exact ((staged_by_tag_iff hmem htrim hstore (host "#Paris")).2 honly).2
      ⟨rfl, .inl rfl, hanswers⟩

/-- Excluded by its first tag the connector is staged, and asked for by it it is not. -/
theorem not_found_by_first_tag : "École" ∈ school.tags ∧ Text.trim "École" = "École" ∧
    stagedOf [school] (host "!#École") = [⟨school, false⟩] ∧
    stagedOf [school] (host "#École") = [] ∧
    school.detection.disableAutoDetection = false ∧ school.detection.appliesTo = [] := by
  have hmem : "École" ∈ school.tags := by decide
  have htrim : Text.trim "École" = "École" := Text.trim_eq_self_iff.2 (by decide +kernel)
  exact ⟨hmem, htrim, by decide +kernel, by decide +kernel, rfl, rfl⟩

end SchoolTags

end HardwareWatch
