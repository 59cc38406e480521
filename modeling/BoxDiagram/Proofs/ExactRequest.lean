/-
Module: BoxDiagram.Proofs.ExactRequest
Purpose: The request of a diagram in exact arithmetic.  Where the spacings of the configuration are not negative, an
  engine reads no negative number from it, and around what is inside a container it reads the padding of containers.
Main exports: Numeral.nonneg_of_read, LayoutConfig.NonNegative, LayoutConfig.standard_nonNegative,
  layoutRequest_nonNegative, insets_boxNode
-/
import BoxDiagram.Proofs.GrowingTexts
import BoxDiagram.Proofs.NestedLayout
import BoxDiagram.Proofs.OptionGrammar
import BoxDiagram.Proofs.RequestOptions

namespace BoxDiagram

/-! ### Numbers without a minus -/

theorem spanSign_of_notMem {cs : List Char} (noMinus : '-' ∉ cs) : (spanSign cs).1 = false := by
  unfold spanSign
  split
  · exact absurd List.mem_cons_self noMinus
  · rfl
  · rfl

/-- The unsigned part of a numeral denotes a finite number with the sign that was read before it. -/
theorem Numeral.exists_eq_finite {negative : Bool} {cs : List Char} {n : Numeral}
    (read : Numeral.readUnsigned? negative cs = some n) : ∃ digits exponent, .finite negative digits exponent = n := by
  rw [Numeral.readUnsigned?] at read
  dsimp only at read
  -- The digits after the point, if there is one, and then whether there are digits at all.
  split at read
  all_goals
    split at read
    · cases read
    · obtain ⟨exponent, -, isFinite⟩ := Option.map_eq_some_iff.mp read
      exact ⟨_, _, isFinite⟩

/-- A numeral without a minus does not denote a negative number. -/
theorem Numeral.nonneg_of_read {text : String} (noMinus : '-' ∉ text.toList) {n : Numeral}
    (read : Numeral.read? text = some n) {y : ℚ} (denotes : n.exact? = some y) : 0 ≤ y := by
  have unsigned := spanSign_of_notMem noMinus
  rw [Numeral.read?] at read
  generalize spanSign text.toList = sign at unsigned read
  obtain ⟨negative, rest⟩ := sign
  subst unsigned
  dsimp only at read
  split at read
  case h_4 =>
    obtain ⟨digits, exponent, rfl⟩ := Numeral.exists_eq_finite read
    rw [ Numeral.exact?, if_neg Bool.false_ne_true] at denotes
    cases denotes
    positivity
  all_goals
    cases read
    cases denotes

/-- A number that is not negative is written without a minus. -/
theorem minus_notMem_print {x : ℚ} (nonneg : 0 ≤ x) : '-' ∉ (NumberText.print x).toList := by
  have digits : ∀ n : ℕ, '-' ∉ (toString n).toList := by
    intro n isMinus
    rw [Nat.toString_eq_repr, Nat.toList_repr] at isMinus
    exact absurd (Nat.isDigit_of_mem_toDigits (by decide) (by decide) isMinus) (by decide)
  obtain ⟨n, isNum⟩ := Int.eq_ofNat_of_zero_le (Rat.num_nonneg.mpr nonneg)
  have written : NumberText.print x = if x.den = 1 then toString n else toString n ++ "/" ++ toString x.den := by
    have spelled : NumberText.print x =
      if x.den = 1 then toString x.num else toString x.num ++ "/" ++ toString x.den := rfl
    rw [spelled, isNum]
    rfl
  rw [written]
  split
  · exact digits n
  · rw [String.toList_append, String.toList_append, List.mem_append, List.mem_append]
    exact not_or.mpr ⟨not_or.mpr ⟨digits n, by decide⟩, digits x.den⟩

/-- What is read of an option with a number that is not negative is not negative either. -/
theorem number?_nonneg {o : LayoutOptions} {key : String} {x : ℚ} (nonneg : 0 ≤ x)
    (isSet : o.get? key = some (NumberText.print x)) : ∀ y ∈ (o.number? key : Option ℚ), 0 ≤ y := by
  intro y isRead
  rw [LayoutOptions.number?, isSet, Option.bind_some, Option.mem_def] at isRead
  obtain ⟨n, read, denotes⟩ := Option.bind_eq_some_iff.mp isRead
  refine Numeral.nonneg_of_read (fun isMinus => minus_notMem_print nonneg ?_) read denotes
  obtain ⟨before, after, -, -, spelled⟩ := (Text.padded_trimList (NumberText.print x).toList).around
  rw [Text.trim, String.toList_ofList] at isMinus
  rw [spelled]
  exact List.mem_append_left _ (List.mem_append_right _ isMinus)

/-! ### The request -/

/-- The spacings that an engine reads are not negative. -/
structure LayoutConfig.NonNegative (config : LayoutConfig ℚ) : Prop where
  node : 0 ≤ config.nodeSpacing
  layer : 0 ≤ config.layerSpacing
  component : 0 ≤ config.componentSpacing

theorem LayoutConfig.standard_nonNegative : (LayoutConfig.standard : LayoutConfig ℚ).NonNegative :=
  ⟨by decide +kernel, by decide +kernel, by decide +kernel⟩

theorem getD_nonneg {read : Option ℚ} (nonneg : ∀ y ∈ read, 0 ≤ y) {default : ℚ} (nonnegDefault : 0 ≤ default) :
    0 ≤ read.getD default := by
  cases read with
  | none => exact nonnegDefault
  | some y => exact nonneg y rfl

theorem spacing_nonneg {config : LayoutConfig ℚ} (spaced : config.NonNegative) (flow : FlowDirection) :
    (Spacing.ofOptions (rootOptions flow config) : Spacing ℚ).NonNegative := by
  obtain ⟨nodeSet, layerSet, componentSet⟩ := rootOptions_spacings flow config
  have node := number?_nonneg spaced.node nodeSet
  have layer := number?_nonneg spaced.layer layerSet
  have component := number?_nonneg spaced.component componentSet
  generalize rootOptions flow config = options at node layer component ⊢
  constructor
  · exact getD_nonneg node (by norm_num)
  · exact getD_nonneg layer (by norm_num)
  · exact getD_nonneg component (by norm_num)

theorem leafSize_nonneg (t : Tree Box) : (leafSize t : Size ℚ).NonNegative := by
  have least := leafSize_least (K := ℚ) t
  rw [ExactNumbers.scalar_rat] at least
  have width : (150 : ℚ) ≤ (leafSize t).width := least.width
  have height : (50 : ℚ) ≤ (leafSize t).height := least.height
  exact ⟨le_trans (by norm_num) width, le_trans (by norm_num) height⟩

/-- The padding of containers is read as it was written. -/
theorem compoundPadding_lossless : ∀ x ∈ (compoundPadding : Insets ℚ).sides, NumberText.Lossless x := by
  decide +kernel

/-- A leaf asks for no padding. -/
theorem padding?_leaf (flow : FlowDirection) {t : Tree Box} (isLeaf : t.isCompound = false) :
    (nodeRequest flow t : LayoutNode ℚ).padding? = none := by
  have keys : ∀ key ∈ [OptionKey.sizeConstraints, OptionKey.minimumSize], key ≠ OptionKey.padding := by decide +kernel
  have notSet : lastValue? OptionKey.padding (sizeOptions (α := ℚ) t) = none := by
    rw [sizeOptions, isLeaf, if_neg Bool.false_ne_true, lastValue?_eq_none_iff]
    exact fun e mem => keys e.1 (List.mem_map_of_mem mem)
  have notForPorts : lastValue? OptionKey.padding (portOptions (α := ℚ) t.value) = none :=
    lastValue?_eq_none_iff.mpr fun e mem => (portOptions_keys t.value e mem).1
  rw [LayoutNode.padding?, nodeRequest_options, notSet, notForPorts]
  rfl

/-- A container asks for the padding of containers. -/
theorem padding?_compound (flow : FlowDirection) {t : Tree Box} (isCompound : t.isCompound = true) :
    (nodeRequest flow t : LayoutNode ℚ).padding? = some compoundPadding := by
  have noLeaf : t.isCompound = false → ∀ x ∈ (leafSize t : Size ℚ).extents, NumberText.Lossless x :=
    fun isLeaf => absurd (isCompound.symm.trans isLeaf) Bool.noConfusion
  exact ((nodeRequest_readsBack flow compoundPadding_lossless noLeaf).compound isCompound).2.2.2

theorem nodeRequest_nonNegative (flow : FlowDirection) (t : Tree Box) :
    (nodeRequest flow t : LayoutNode ℚ).NonNegative := by
  have size := leafSize_nonneg t
  cases isCompound : t.isCompound with
  | true =>
      refine ⟨?_, ?_, ?_⟩
      · simp [nodeRequest, isCompound]
      · simp [nodeRequest, isCompound]
      · rw [padding?_compound flow isCompound]
        intro i isPadding
        rw [← Option.mem_some_iff.mp isPadding]
        exact ⟨by decide +kernel, by decide +kernel, by decide +kernel, by decide +kernel⟩
  | false =>
      refine ⟨?_, ?_, ?_⟩
      · simpa [nodeRequest, isCompound] using size.width
      · simpa [nodeRequest, isCompound] using size.height
      · simp [padding?_leaf flow isCompound]

/-- Nothing that a diagram asks for is negative, if the spacings of the configuration are not. -/
theorem layoutRequest_nonNegative (d : Diagram ℚ) {config : LayoutConfig ℚ} (spaced : config.NonNegative) :
    (layoutRequest d config).NonNegative where
  nodes := by
    rw [LayoutGraph.allNodes_eq, layoutRequest_nodes, List.forall_mem_map]
    intro t _
    rw [boxNode, Tree.mapTree_value]
    exact nodeRequest_nonNegative d.flow t
  spacing := spacing_nonneg spaced d.flow

/-- Around what is inside a container an engine leaves the padding of containers. -/
theorem insets_boxNode (flow : FlowDirection) {t : Tree Box} (isCompound : t.isCompound = true) :
    (boxNode flow t : Tree (LayoutNode ℚ)).value.insets = compoundPadding := by
  rw [boxNode, Tree.mapTree_value, LayoutNode.insets, padding?_compound flow isCompound, Option.getD_some]

end BoxDiagram
