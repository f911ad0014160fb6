import RtcTestbench.RoundTrip

namespace RtcTestbench
open Buffer
set_option autoImplicit true

/-- What the mirror makes of a frame that lost its tag: the addresses change places and a tag
follows them. -/
def reflectFrame (vlanTci : UInt16) (frame : List UInt8) : List UInt8 :=
  slice frame 6 6 ++ slice frame 0 6 ++ be16 ethP8021Q ++ be16 vlanTci ++ frame.drop 12

variable {buf mem newFrame frame : List UInt8} {len : Nat} {etherType vlanTci : UInt16}

theorem be16_be16At (h : off + 2 ≤ mem.length) : be16 (be16At mem off) = slice mem off 2 := by
  have hbytes := beBytes_ofBe (slice mem off 2)
  rw [length_slice h] at hbytes
  have hlt : ofBe (slice mem off 2) < 2 ^ 16 := by
    have hlt := ofBe_lt (slice mem off 2)
    rwa [length_slice h] at hlt
  rw [be16, be16At, be16toh, UInt16.toNat_ofNat', Nat.mod_eq_of_lt hlt, hbytes]

section Swap
variable (hlen : 14 ≤ len)
include hlen

theorem swapMacAddresses_eq (buf : List UInt8) :
    swapMacAddresses buf len = writeAll buf [(6, slice buf 0 6), (0, slice buf 6 6)] :=
  if_neg (Nat.not_lt.mpr hlen)

theorem slice_swapMacAddresses_rest (buf : List UInt8) (h : 12 ≤ i) :
    slice (swapMacAddresses buf len) i k = slice buf i k := by
  rw [swapMacAddresses_eq hlen]
  apply slice_writeAll_disjoint
  intro w hw
  have hshort (off : Nat) : (slice buf off 6).length ≤ 6 := List.length_take_le _ _
  have h₀ := hshort 0
  have h₆ := hshort 6
  rcases List.mem_pair.mp hw with rfl | rfl
  · exact .inr (by dsimp only; omega)
  · exact .inr (by dsimp only; omega)

theorem slice_swapMacAddresses (hbuf : 12 ≤ buf.length) :
    slice (swapMacAddresses buf len) 0 6 = slice buf 6 6 ∧
      slice (swapMacAddresses buf len) 6 6 = slice buf 0 6 := by
  have h₀ : (slice buf 0 6).length = 6 := length_slice (by omega)
  have h₆ : (slice buf 6 6).length = 6 := length_slice (by omega)
  rw [swapMacAddresses_eq hlen]
  constructor
  · have hdst : slice (writeAll buf [(6, slice buf 0 6), (0, slice buf 6 6)]) 0
        (slice buf 6 6).length = slice buf 6 6 := slice_writeAll_at buf 1 rfl (by omega) nofun
    rwa [h₆] at hdst
  · have hsrc : slice (writeAll buf [(6, slice buf 0 6), (0, slice buf 6 6)]) 6
        (slice buf 0 6).length = slice buf 0 6 :=
      slice_writeAll_at buf 0 rfl (by omega) (by simp [h₆])
    rwa [h₀] at hsrc

end Swap

section Insert
variable (etherType vlanTci)

theorem insertVlanTag_eq (hfit : len + 4 ≤ maxFrameSize) (buf : List UInt8) :
    insertVlanTag buf len etherType vlanTci = writeAll buf
      [(16, slice buf 12 (len - 12)), (16, be16 etherType), (12, be16 ethP8021Q),
        (14, be16 vlanTci)] :=
  if_neg (Nat.not_lt.mpr hfit)

variable (hlen : 14 ≤ len) (hfit : len + 4 ≤ maxFrameSize) (hbuf : len + 4 ≤ buf.length)
include hlen hfit hbuf

/-- The addresses, and what lies behind the frame, stay. -/
theorem slice_insertVlanTag_outside (h : i + k ≤ 12 ∨ len + 4 ≤ i) :
    slice (insertVlanTag buf len etherType vlanTci) i k = slice buf i k := by
  have hmove : (slice buf 12 (len - 12)).length = len - 12 := length_slice (by omega)
  rw [insertVlanTag_eq etherType vlanTci hfit]
  apply slice_writeAll_disjoint
  simp only [List.mem_cons, List.not_mem_nil, or_false, forall_eq_or_imp, forall_eq, length_be16,
    hmove]
  omega

theorem slice_insertVlanTag_tag :
    slice (insertVlanTag buf len etherType vlanTci) 12 6 =
      be16 ethP8021Q ++ be16 vlanTci ++ be16 etherType := by
  have hproto : slice (insertVlanTag buf len etherType vlanTci) 12 (be16 ethP8021Q).length =
      be16 ethP8021Q := by
    rw [insertVlanTag_eq etherType vlanTci hfit]
    exact slice_writeAll_at buf 2 rfl (by rw [length_be16]; omega) (by simp)
  have htci : slice (insertVlanTag buf len etherType vlanTci) 14 (be16 vlanTci).length =
      be16 vlanTci := by
    rw [insertVlanTag_eq etherType vlanTci hfit]
    exact slice_writeAll_at buf 3 rfl (by rw [length_be16]; omega) nofun
  have hether : slice (insertVlanTag buf len etherType vlanTci) 16 (be16 etherType).length =
      be16 etherType := by
    rw [insertVlanTag_eq etherType vlanTci hfit]
    exact slice_writeAll_at buf 1 rfl (by rw [length_be16]; omega) (by simp)
  rw [length_be16] at hproto htci hether
  rw [show 6 = 2 + 2 + 2 from rfl, slice_add, slice_add, hproto, htci, hether]

/-- Behind the protocol everything moves by the size of the tag. -/
theorem slice_insertVlanTag_moved (hi : 18 ≤ i) (hk : i + k ≤ len + 4) :
    slice (insertVlanTag buf len etherType vlanTci) i k = slice buf (i - 4) k := by
  have hmove : (slice buf 12 (len - 12)).length = len - 12 := length_slice (by omega)
  rw [insertVlanTag_eq etherType vlanTci hfit,
    slice_writeAll_within buf 0 rfl (by omega) (by omega) (by omega) (by simp; omega),
    slice_slice buf (by omega)]
  congr 1
  omega

end Insert

theorem reflectFrame_slice (hlen : 14 ≤ len) (vlanTci : UInt16) :
    reflectFrame vlanTci (slice buf 0 len) =
      slice buf 6 6 ++ slice buf 0 6 ++ be16 ethP8021Q ++ be16 vlanTci ++ slice buf 12 2 ++
        slice buf 14 (len - 14) := by
  have hrest : (slice buf 0 len).drop 12 = slice buf 12 2 ++ slice buf 14 (len - 14) := by
    rw [← slice_add, slice, List.drop_zero, List.drop_take, slice]
    congr 1
    omega
  rw [reflectFrame, slice_slice buf (by omega), slice_slice buf (by omega), hrest,
    List.append_assoc _ (slice buf 12 2)]

theorem slice_inPlace (hlen : 14 ≤ len) (hfit : len + 4 ≤ maxFrameSize)
    (hbuf : len + 4 ≤ buf.length) (vlanTci : UInt16) :
    slice (swapMacAddresses (insertVlanTag buf len (be16At buf 12) vlanTci) len) 0 (len + 4) =
      reflectFrame vlanTci (slice buf 0 len) := by
  have houtside {i k : Nat} (h : i + k ≤ 12 ∨ len + 4 ≤ i) :=
    slice_insertVlanTag_outside (be16At buf 12) vlanTci hlen hfit hbuf h
  have htag := slice_insertVlanTag_tag (be16At buf 12) vlanTci hlen hfit hbuf
  have hmoved := slice_insertVlanTag_moved (be16At buf 12) vlanTci hlen hfit hbuf
    (show 18 ≤ 18 from Nat.le_refl _) (show 18 + (len - 14) ≤ len + 4 by omega)
  have hroom : 12 ≤ (insertVlanTag buf len (be16At buf 12) vlanTci).length := by
    rw [insertVlanTag_eq _ _ hfit, length_writeAll]
    omega
  obtain ⟨hdst, hsrc⟩ := slice_swapMacAddresses hlen hroom
  rw [be16_be16At (by omega)] at htag
  rw [show len + 4 = 6 + 6 + 6 + (len - 14) by omega, slice_add, slice_add, slice_add, hdst, hsrc,
    slice_swapMacAddresses_rest hlen _ (by decide), slice_swapMacAddresses_rest hlen _ (by omega),
    houtside (.inl (by decide)), houtside (.inl (by decide)), htag, hmoved,
    reflectFrame_slice hlen]
  simp only [List.append_assoc]

theorem slice_copied (hlen : 14 ≤ len) (hfit : len + 4 ≤ maxFrameSize) (hbuf : len ≤ buf.length)
    (hnew : newFrame.length = maxFrameSize) (vlanTci : UInt16) :
    slice (buildVlanFrameFromRx buf len newFrame maxFrameSize (be16At buf 12) vlanTci) 0 (len + 4) =
      reflectFrame vlanTci (slice buf 0 len) := by
  have hmove : (slice buf 12 (len - 12)).length = len - 12 := length_slice (by omega)
  have hdst : (slice buf 6 6).length = 6 := length_slice (by omega)
  have hsrc : (slice buf 0 6).length = 6 := length_slice (by omega)
  have hether : (slice buf 12 2).length = 2 := length_slice (by omega)
  have hsize : 18 ≤ maxFrameSize := by decide
  rw [buildVlanFrameFromRx, sizeofVlanHeader, if_neg (Nat.not_lt.mpr hfit), be16_be16At (by omega)]
  generalize hws : [(16, slice buf 12 (len - 12)), (0, slice buf 6 6), (6, slice buf 0 6),
    (12, be16 ethP8021Q), (14, be16 vlanTci), (16, slice buf 12 2)] = ws
  -- every field is written once, except the protocol: it is copied and then set again
  have hfield (k off : Nat) (src : List UInt8) (hk : ws[k]? = some (off, src))
      (hroom : off + src.length ≤ 18)
      (hpost : ∀ w ∈ ws.drop (k + 1), off + src.length ≤ w.1 ∨ w.1 + w.2.length ≤ off) :=
    slice_writeAll_at newFrame k hk (by omega) hpost
  have h₀ := hfield 1 0 (slice buf 6 6) (by rw [← hws]; rfl) (by omega) (by simp [← hws, hdst])
  have h₆ := hfield 2 6 (slice buf 0 6) (by rw [← hws]; rfl) (by omega) (by simp [← hws, hsrc])
  have h₁₂ := hfield 3 12 (be16 ethP8021Q) (by rw [← hws]; rfl) (by simp) (by simp [← hws])
  have h₁₄ := hfield 4 14 (be16 vlanTci) (by rw [← hws]; rfl) (by simp) (by simp [← hws])
  have h₁₆ := hfield 5 16 (slice buf 12 2) (by rw [← hws]; rfl) (by omega) (by simp [← hws])
  rw [hdst] at h₀
  rw [hsrc] at h₆
  rw [length_be16] at h₁₂ h₁₄
  rw [hether] at h₁₆
  have h₁₈ : slice (writeAll newFrame ws) 18 (len - 14) = slice buf 14 (len - 14) := by
    rw [slice_writeAll_within newFrame 0 (by rw [← hws]; rfl) (by omega) (by decide) (by omega)
      (by simp [← hws, hdst, hsrc, hether]), slice_slice buf (by omega)]
  rw [show len + 4 = 6 + 6 + 2 + 2 + 2 + (len - 14) by omega, slice_add, slice_add, slice_add,
    slice_add, slice_add, h₀, h₆, h₁₂, h₁₄, h₁₆, h₁₈, reflectFrame_slice hlen]

theorem length_reflectFrame (h : 12 ≤ frame.length) (vlanTci : UInt16) :
    (reflectFrame vlanTci frame).length = frame.length + 4 := by
  simp only [reflectFrame, List.length_append, length_be16, List.length_drop,
    length_slice (show 6 + 6 ≤ frame.length by omega),
    length_slice (show 0 + 6 ≤ frame.length by omega)]
  omega

theorem length_exchanged (h : 12 ≤ frame.length) :
    (slice frame 6 6 ++ slice frame 0 6).length = 12 := by
  rw [List.length_append, length_slice (by omega), length_slice (by omega)]

theorem length_exchanged_tag (h : 12 ≤ frame.length) (vlanTci : UInt16) :
    (slice frame 6 6 ++ slice frame 0 6 ++ (be16 ethP8021Q ++ be16 vlanTci)).length = 16 := by
  rw [List.length_append, length_exchanged h, List.length_append, length_be16, length_be16]

/-- Behind the addresses of a reflected frame are the tag and then the rest of the old frame. -/
theorem slice_reflectFrame (h : 12 ≤ frame.length) (vlanTci : UInt16) :
    slice (reflectFrame vlanTci frame) 12 2 = be16 ethP8021Q ∧
      ∀ i k, 12 ≤ i → slice (reflectFrame vlanTci frame) (i + 4) k = slice frame i k := by
  have haddrs := length_exchanged h
  have htagged := length_exchanged_tag h vlanTci
  constructor
  · rw [reflectFrame, List.append_assoc, List.append_assoc,
      slice_append_right _ _ (Nat.le_of_eq haddrs), haddrs]
    exact slice_full (be16 ethP8021Q)
  · intro i k hi
    rw [reflectFrame, List.append_assoc _ (be16 ethP8021Q), slice_append_right _ _ (by omega),
      htagged, slice, slice, List.drop_drop]
    congr 2
    omega

/-- Without its tag the reflected frame is the old one with the addresses exchanged. -/
theorem stripVlanTag_reflectFrame (h : 12 ≤ frame.length) (vlanTci : UInt16) :
    stripVlanTag (reflectFrame vlanTci frame) =
      slice frame 6 6 ++ slice frame 0 6 ++ frame.drop 12 := by
  have haddrs := length_exchanged h
  have htagged := length_exchanged_tag h vlanTci
  rw [stripVlanTag, reflectFrame, List.append_assoc _ (be16 ethP8021Q), ← htagged, List.drop_left,
    List.append_assoc _ _ (frame.drop 12), ← haddrs, List.take_left]

/-- A second reflection brings the addresses back. -/
theorem reflectFrame_twice (h : 12 ≤ frame.length) (vlanTci vlanTci' : UInt16) :
    stripVlanTag (reflectFrame vlanTci' (stripVlanTag (reflectFrame vlanTci frame))) = frame := by
  have hdst : (slice frame 6 6).length = 6 := length_slice (by omega)
  have hsrc : (slice frame 0 6).length = 6 := length_slice (by omega)
  have hlen : 12 ≤ (stripVlanTag (reflectFrame vlanTci frame)).length := by
    rw [stripVlanTag_reflectFrame h, List.length_append, List.length_append, hdst, hsrc]
    omega
  rw [stripVlanTag_reflectFrame hlen, stripVlanTag_reflectFrame h]
  have hwhole : slice frame 0 6 ++ slice frame 6 6 ++ frame.drop 12 = frame := by
    rw [← slice_add, slice, List.drop_zero, List.take_append_drop]
  have hfirst : slice (slice frame 6 6 ++ slice frame 0 6 ++ frame.drop 12) 0 6 =
      slice frame 6 6 := by
    rw [List.append_assoc, slice_append_left _ _ (by omega), slice_slice _ (by decide)]
  have hsecond : slice (slice frame 6 6 ++ slice frame 0 6 ++ frame.drop 12) 6 6 =
      slice frame 0 6 := by
    rw [List.append_assoc, slice_append_right _ _ (by omega), hdst, Nat.sub_self,
      slice_append_left _ _ (by omega), slice_slice _ (by decide)]
  have hrest : (slice frame 6 6 ++ slice frame 0 6 ++ frame.drop 12).drop 12 = frame.drop 12 := by
    nth_rewrite 1 [← length_exchanged h]
    exact List.drop_left
  rw [hfirst, hsecond, hrest, hwhole]

theorem swapMacAddresses_stripped (hlen : 14 ≤ frame.length) (vlanTci : UInt16) :
    swapMacAddresses (stripVlanTag (reflectFrame vlanTci frame)) frame.length = frame := by
  have hback := reflectFrame_twice (show 12 ≤ frame.length by omega) vlanTci vlanTci
  have hlength : (stripVlanTag (reflectFrame vlanTci frame)).length = frame.length := by
    rw [length_stripVlanTag (by rw [length_reflectFrame (by omega)]; omega),
      length_reflectFrame (by omega), Nat.add_sub_cancel]
  generalize stripVlanTag (reflectFrame vlanTci frame) = stripped at hback hlength ⊢
  rw [stripVlanTag_reflectFrame (by omega)] at hback
  obtain ⟨hdst, hsrc⟩ := slice_swapMacAddresses hlen (show 12 ≤ stripped.length by omega)
  have hrest : slice (swapMacAddresses stripped frame.length) 12 (frame.length - 12) =
      slice stripped 12 (frame.length - 12) := slice_swapMacAddresses_rest hlen _ (Nat.le_refl _)
  have hparts (mem : List UInt8) (hmem : mem.length = frame.length) :
      slice mem 0 6 ++ slice mem 6 6 ++ slice mem 12 (frame.length - 12) = mem := by
    rw [← slice_add, ← slice_add, show 6 + 6 + (frame.length - 12) = mem.length by omega,
      slice_full]
  have hswapped : (swapMacAddresses stripped frame.length).length = frame.length := by
    rw [swapMacAddresses_eq hlen, length_writeAll, hlength]
  have hall : slice stripped 12 (frame.length - 12) = stripped.drop 12 :=
    List.take_of_length_le (by rw [List.length_drop]; omega)
  rw [← hparts _ hswapped, hdst, hsrc, hrest, hall, hback]

theorem be16At_stripped (hlen : 14 ≤ frame.length) (vlanTci : UInt16) (tail : List UInt8) :
    be16At (stripVlanTag (reflectFrame vlanTci frame) ++ tail) 12 = be16At frame 12 := by
  have haddrs : (slice frame 6 6 ++ slice frame 0 6).length = 12 := by
    rw [List.length_append, length_slice (by omega), length_slice (by omega)]
  rw [be16At, stripVlanTag_reflectFrame (by omega), List.append_assoc,
    slice_append_right _ _ (by omega), haddrs, Nat.sub_self,
    slice_append_left _ _ (by rw [List.length_drop]; omega), drop_slice]
  rfl

/-- The two transports reflect a frame that arrives without its tag in the same way: the result is
the frame with its addresses exchanged and the tag behind them, and nothing around it changes. Once
more without the tag, exchanging the addresses or another reflection brings the frame back. -/
theorem mirror_paths_agree (hlen : 14 ≤ len) (hfit : len + 4 ≤ maxFrameSize)
    (hbuf : len + 4 ≤ buf.length) (hnew : newFrame.length = maxFrameSize)
    (hether : etherType = be16At buf 12) (vlanTci : UInt16) :
    let frame := slice buf 0 len
    let inPlace := swapMacAddresses (insertVlanTag buf len etherType vlanTci) len
    let copied := buildVlanFrameFromRx buf len newFrame maxFrameSize etherType vlanTci
    let reflected := slice inPlace 0 (len + 4)
    reflected = slice copied 0 (len + 4) ∧
    reflected = slice frame 6 6 ++ slice frame 0 6 ++ be16 ethP8021Q ++ be16 vlanTci ++
      frame.drop 12 ∧
    (∀ i k, len + 4 ≤ i → slice inPlace i k = slice buf i k) ∧
    swapMacAddresses (stripVlanTag reflected) len = frame ∧
    ∀ tail, 4 ≤ tail.length →
      let again := stripVlanTag reflected ++ tail
      stripVlanTag (slice (swapMacAddresses (insertVlanTag again len etherType vlanTci) len) 0
        (len + 4)) = frame := by
  subst hether
  intro frame inPlace copied reflected
  have hframe : frame.length = len := length_slice (by omega)
  have hreflected : reflected = reflectFrame vlanTci frame := slice_inPlace hlen hfit hbuf vlanTci
  have hcopied : slice copied 0 (len + 4) = reflectFrame vlanTci frame :=
    slice_copied hlen hfit (by omega) hnew vlanTci
  refine ⟨hreflected.trans hcopied.symm, hreflected, ?_, ?_, ?_⟩
  · intro i k hi
    exact (slice_swapMacAddresses_rest hlen _ (by omega)).trans
      (slice_insertVlanTag_outside _ vlanTci hlen hfit hbuf (.inr hi))
  · rw [hreflected, ← hframe]
    exact swapMacAddresses_stripped (by omega) vlanTci
  · intro tail htail again
    have hstripped : (stripVlanTag reflected).length = len := by
      rw [hreflected, length_stripVlanTag (by rw [length_reflectFrame (by omega)]; omega),
        length_reflectFrame (by omega), hframe, Nat.add_sub_cancel]
    have hproto : be16At again 12 = be16At buf 12 := by
      have hown : be16At frame 12 = be16At buf 12 := congrArg be16toh (slice_slice buf (by omega))
      have hsame := be16At_stripped (show 14 ≤ frame.length by omega) vlanTci tail
      rw [← hreflected] at hsame
      exact hsame.trans hown
    have hagain := @slice_inPlace again len hlen hfit
      (by rw [List.length_append]; omega) vlanTci
    rw [hproto] at hagain
    rw [hagain, slice_append_left _ _ (by omega), ← hstripped, slice_full, hreflected]
    exact reflectFrame_twice (by omega) vlanTci vlanTci

/-- The shortest frame there is: twelve bytes of addresses and the protocol. -/
theorem mirror_paths_agree_shortest :
    let buf : List UInt8 := [0, 1, 2, 3, 4, 5, 6, 7, 8, 9, 10, 11, 0x88, 0x92, 0, 0, 0, 0]
    slice (buildVlanFrameFromRx buf 14 (List.replicate 4096 0) maxFrameSize 0x8892 0xc064) 0 18 =
      [6, 7, 8, 9, 10, 11, 0, 1, 2, 3, 4, 5, 0x81, 0, 0xc0, 0x64, 0x88, 0x92] := by
  intro buf
  obtain ⟨hagree, hparts, -⟩ := mirror_paths_agree (show 14 ≤ 14 by decide)
    (show 14 + 4 ≤ maxFrameSize by decide) (show 14 + 4 ≤ buf.length by decide)
    (show (List.replicate 4096 (0 : UInt8)).length = maxFrameSize from List.length_replicate)
    (show 0x8892 = be16At buf 12 by decide) 0xc064
  exact hagree.symm.trans (hparts.trans (by decide))

end RtcTestbench
