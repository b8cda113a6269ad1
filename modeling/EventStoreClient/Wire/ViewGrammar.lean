import EventStoreClient.Wire.TcpPackage
import Mathlib.Tactic.Tauto

/-!
# What the package view accepts

The constructor of the view is evaluated once for each of its three ways through,
and everything about the accepted frames is read off from that.
-/

namespace EventStoreClient
namespace Wire

open Foundation

/-!
# The wire grammar

A frame has its mandatory header; if it is flagged it has login and password, each behind
its size byte; the rest is the message.
-/

def FlaggedAuthenticated (package : Nat -> UInt8) : Prop :=
  package kFlagsOffset = TcpFlags.authenticated.byte

instance (package : Nat -> UInt8) : Decidable (FlaggedAuthenticated package) :=
  inferInstanceAs (Decidable (_ = _))

def loginSizeOf (package : Nat -> UInt8) : Nat :=
  (package kAuthOffset).toNat

def passwordSizeOf (package : Nat -> UInt8) : Nat :=
  (package (kAuthOffset + 1 + loginSizeOf package)).toNat

def SizeBytesInside (package : Nat -> UInt8) (n : Nat) : Prop :=
  kAuthOffset < n ∧ kAuthOffset + 1 + loginSizeOf package < n

def credentialsEnd (package : Nat -> UInt8) : Nat :=
  kMandatorySize + 1 + loginSizeOf package + 1 + passwordSizeOf package

def messageStart (package : Nat -> UInt8) : Nat :=
  if FlaggedAuthenticated package then credentialsEnd package else kMandatorySize

def Grammar (package : Nat -> UInt8) (n : Nat) : Prop :=
  kMandatorySize ≤ n ∧
    (FlaggedAuthenticated package ->
      SizeBytesInside package n ∧ credentialsEnd package ≤ n)

instance (package : Nat -> UInt8) (n : Nat) : Decidable (Grammar package n) :=
  inferInstanceAs (Decidable (_ ∧ (_ -> (_ ∧ _) ∧ _)))

/-!
# The three ways through the constructor

A frame may be too short, or have no flag; otherwise the size bytes are read.
-/

namespace TcpPackageView

theorem construct_short {package : Nat -> UInt8} {length : UInt64}
    (hshort : length.toNat < kMandatorySize) (log : List Nat) :
    (construct package length).run log =
      ({ package := none, length := length - 4 }, log) := by
  simp [construct, hshort]
  rfl

theorem construct_plain {package : Nat -> UInt8} {length : UInt64}
    (hlong : kMandatorySize ≤ length.toNat)
    (hplain : ¬ FlaggedAuthenticated package) (log : List Nat) :
    (construct package length).run log =
      ({ package := some package, length := length - 4 }, log ++ [kFlagsOffset]) := by
  have hplain' : package kFlagsOffset ≠ TcpFlags.authenticated.byte := hplain
  simp [construct, load, Nat.not_lt.mpr hlong, hplain']
  rfl

theorem construct_authenticated {package : Nat -> UInt8} {length : UInt64}
    (hlong : kMandatorySize ≤ length.toNat)
    (hauth : FlaggedAuthenticated package) (log : List Nat) :
    (construct package length).run log =
      (if length.toNat < credentialsEnd package then
          { package := none, length := length - 4 }
        else
          { package := some package, length := length - 4 },
        log ++ [kFlagsOffset, kAuthOffset, kAuthOffset + 1 + loginSizeOf package]) := by
  have hauth' : package kFlagsOffset = TcpFlags.authenticated.byte := hauth
  by_cases hshort : length.toNat < credentialsEnd package
  · rw [if_pos hshort]
    unfold credentialsEnd passwordSizeOf loginSizeOf at hshort
    simp [construct, load, Nat.not_lt.mpr hlong, hauth', hshort]
    rfl
  · rw [if_neg hshort]
    unfold credentialsEnd passwordSizeOf loginSizeOf at hshort
    simp [construct, load, Nat.not_lt.mpr hlong, hauth', hshort]
    rfl

/-!
The reads and the view of each way.
-/

theorem reads_short {package : Nat -> UInt8} {length : UInt64}
    (hshort : length.toNat < kMandatorySize) : reads package length = [] := by
  rw [reads, construct_short hshort]

theorem reads_plain {package : Nat -> UInt8} {length : UInt64}
    (hlong : kMandatorySize ≤ length.toNat)
    (hplain : ¬ FlaggedAuthenticated package) :
    reads package length = [kFlagsOffset] := by
  rw [reads, construct_plain hlong hplain]
  rfl

theorem reads_authenticated {package : Nat -> UInt8} {length : UInt64}
    (hlong : kMandatorySize ≤ length.toNat)
    (hauth : FlaggedAuthenticated package) :
    reads package length =
      [kFlagsOffset, kAuthOffset, kAuthOffset + 1 + loginSizeOf package] := by
  rw [reads, construct_authenticated hlong hauth]
  rfl

@[simp] theorem of_length (package : Nat -> UInt8) (length : UInt64) :
    (of package length).length = length - 4 := by
  by_cases hlong : kMandatorySize ≤ length.toNat
  · by_cases hauth : FlaggedAuthenticated package
    · rw [of, construct_authenticated hlong hauth]
      by_cases hshort : length.toNat < credentialsEnd package
      · simp [hshort]
      · simp [hshort]
    · rw [of, construct_plain hlong hauth]
  · rw [of, construct_short (Nat.not_le.mp hlong)]

/-- The constructor keeps the pointer of exactly the frames of the grammar, whatever
lies behind their end. -/
theorem of_package (package : Nat -> UInt8) (length : UInt64) :
    (of package length).package =
      if Grammar package length.toNat then some package else none := by
  by_cases hlong : kMandatorySize ≤ length.toNat
  · by_cases hauth : FlaggedAuthenticated package
    · rw [of, construct_authenticated hlong hauth]
      by_cases hshort : length.toNat < credentialsEnd package
      · have hbad : ¬ Grammar package length.toNat := by
          intro hgood
          have := (hgood.right hauth).right
          omega
        rw [if_pos hshort, if_neg hbad]
      · have hgood : Grammar package length.toNat := by
          refine ⟨hlong, fun _ => ⟨?_, Nat.not_lt.mp hshort⟩⟩
          simp only [credentialsEnd, kMandatorySize] at hshort
          constructor <;> omega
        rw [if_neg hshort, if_pos hgood]
    · have hgood : Grammar package length.toNat :=
        ⟨hlong, fun h => absurd h hauth⟩
      rw [of, construct_plain hlong hauth, if_pos hgood]
  · have hbad : ¬ Grammar package length.toNat := fun hgood => hlong hgood.left
    rw [of, construct_short (Nat.not_le.mp hlong), if_neg hbad]

theorem of_isValid_iff (package : Nat -> UInt8) (length : UInt64) :
    (of package length).isValid = true <-> Grammar package length.toNat := by
  rw [isValid, of_package]
  by_cases hgood : Grammar package length.toNat
  · simp [hgood]
  · simp [hgood]

/-!
# The accessors of a view that kept its pointer

Each accessor gives its part of the frame, the message size narrowed as the accessor
returns it.
-/

section Accessors

variable {v : TcpPackageView} {package : Nat -> UInt8}

theorem isAuthenticated?_eq (h : v.package = some package) :
    v.isAuthenticated? = some (decide (FlaggedAuthenticated package)) := by
  have hflags : v.flags? = some ⟨package kFlagsOffset⟩ := by
    simp [flags?, at?, h]
  by_cases hauth : FlaggedAuthenticated package
  · have hbyte : package kFlagsOffset = TcpFlags.authenticated.byte := hauth
    simp [isAuthenticated?, hflags, hauth, hbyte]
  · have hbyte : package kFlagsOffset ≠ TcpFlags.authenticated.byte := hauth
    have hne : (⟨package kFlagsOffset⟩ : TcpFlags) ≠ TcpFlags.authenticated :=
      fun heq => hbyte (congrArg TcpFlags.byte heq)
    simp [isAuthenticated?, hflags, hauth, hne]

theorem loginSize?_eq (h : v.package = some package) :
    v.loginSize? = some (loginSizeOf package) := by
  simp [loginSize?, at?, h, loginSizeOf]

theorem passwordOffset?_eq (h : v.package = some package) :
    v.passwordOffset? = some (loginOffset + loginSizeOf package + 1) := by
  simp [passwordOffset?, loginSize?_eq h]

theorem passwordSize?_eq (h : v.package = some package) :
    v.passwordSize? = some (passwordSizeOf package) := by
  simp [passwordSize?, loginSize?_eq h, at?, h, passwordSizeOf, loginOffset]

theorem messageOffset?_eq (h : v.package = some package) :
    v.messageOffset? = some (messageStart package) := by
  by_cases hauth : FlaggedAuthenticated package
  · simp [messageOffset?, isAuthenticated?_eq h, passwordOffset?_eq h,
      passwordSize?_eq h, hauth, messageStart, credentialsEnd, loginOffset,
      kMandatorySize]
  · simp [messageOffset?, isAuthenticated?_eq h, hauth, messageStart]

end Accessors

theorem messageStart_lt (package : Nat -> UInt8) : messageStart package < 2 ^ 64 := by
  have hlogin : loginSizeOf package < 256 := UInt8.toNat_lt _
  have hpassword : passwordSizeOf package < 256 := UInt8.toNat_lt _
  unfold messageStart credentialsEnd
  simp only [kMandatorySize, kAuthOffset, kCorrelationOffset, kFlagsOffset,
    kCommandOffset, kLengthOffset]
  split <;> omega

theorem messageStart_le {package : Nat -> UInt8} {n : Nat}
    (hgood : Grammar package n) : messageStart package ≤ n := by
  unfold messageStart
  split
  · rename_i hauth
    exact (hgood.right hauth).right
  · exact hgood.left

theorem messageSize?_of {package : Nat -> UInt8} {length : UInt64}
    (hgood : Grammar package length.toNat) :
    (of package length).messageSize? =
      some ((length.toNat - messageStart package) % 2 ^ 32) := by
  have hpackage : (of package length).package = some package := by
    rw [of_package, if_pos hgood]
  have hstart := messageStart_lt package
  have hle := messageStart_le hgood
  have hoffset : (UInt64.ofNat (messageStart package)).toNat = messageStart package :=
    UInt64.toNat_ofNat_of_lt hstart
  have hdiff : (length - UInt64.ofNat (messageStart package)).toNat =
      length.toNat - messageStart package := by
    rw [UInt64.toNat_sub_of_le, hoffset]
    rw [UInt64.le_iff_toNat_le, hoffset]
    exact hle
  have hsize : (of package length).length + 4 = length := by
    rw [of_length, UInt64.sub_add_cancel]
  rw [messageSize?, messageOffset?_eq hpackage, hsize]
  show some (length - UInt64.ofNat (messageStart package)).toUInt32.toNat = _
  rw [UInt64.toNat_toUInt32, hdiff]

/-!
# The accessors partition the frame

Reads, validity and the parts of the frame agree with the grammar except behind its end:
the login size of a 22-byte frame is read one byte behind it.
-/

/-- The header, the size bytes and the slices the accessors give, in frame order. -/
def intervals? (v : TcpPackageView) : Option (List (Nat × Nat)) := do
  let message := (<- v.messageOffset?, <- v.messageSize?)
  if <- v.isAuthenticated? then
    let login := (loginOffset, <- v.loginSize?)
    let password := (<- v.passwordOffset?, <- v.passwordSize?)
    return [(0, kMandatorySize), (kAuthOffset, 1), login,
      (loginOffset + login.2, 1), password, message]
  else
    return [(0, kMandatorySize), message]

/-- The message is shorter than the `unsigned int` its size is narrowed to. -/
def MessageFits (package : Nat -> UInt8) (n : Nat) : Prop :=
  n - messageStart package < 2 ^ 32

theorem intervals?_plain {package : Nat -> UInt8} {length : UInt64}
    (hgood : Grammar package length.toNat)
    (hplain : ¬ FlaggedAuthenticated package) :
    (of package length).intervals? =
      some [(0, kMandatorySize),
        (kMandatorySize, (length.toNat - kMandatorySize) % 2 ^ 32)] := by
  have hpackage : (of package length).package = some package := by
    rw [of_package, if_pos hgood]
  have hstart : messageStart package = kMandatorySize := if_neg hplain
  simp [intervals?, messageOffset?_eq hpackage, messageSize?_of hgood,
    isAuthenticated?_eq hpackage, hplain, hstart]

theorem intervals?_authenticated {package : Nat -> UInt8} {length : UInt64}
    (hgood : Grammar package length.toNat)
    (hauth : FlaggedAuthenticated package) :
    (of package length).intervals? =
      some [(0, kMandatorySize), (kAuthOffset, 1),
        (loginOffset, loginSizeOf package),
        (loginOffset + loginSizeOf package, 1),
        (loginOffset + loginSizeOf package + 1, passwordSizeOf package),
        (credentialsEnd package,
          (length.toNat - credentialsEnd package) % 2 ^ 32)] := by
  have hpackage : (of package length).package = some package := by
    rw [of_package, if_pos hgood]
  have hstart : messageStart package = credentialsEnd package := if_pos hauth
  simp [intervals?, messageOffset?_eq hpackage, messageSize?_of hgood,
    isAuthenticated?_eq hpackage, loginSize?_eq hpackage,
    passwordOffset?_eq hpackage, passwordSize?_eq hpackage, hauth, hstart]

/-- The intervals of an accepted frame tile it exactly when its message size
survives the narrowing. -/
theorem intervals_tile_iff {package : Nat -> UInt8} {length : UInt64}
    (hgood : Grammar package length.toNat) :
    (exists intervals, (of package length).intervals? = some intervals ∧
        Tiles 0 length.toNat intervals) <->
      MessageFits package length.toNat := by
  have hle := messageStart_le hgood
  have hmod : (length.toNat - messageStart package) % 2 ^ 32 =
      length.toNat - messageStart package <->
        length.toNat - messageStart package < 2 ^ 32 :=
    Nat.mod_eq_iff_lt (by decide)
  rw [MessageFits, ← hmod]
  by_cases hauth : FlaggedAuthenticated package
  · have hstart : messageStart package = credentialsEnd package := if_pos hauth
    rw [intervals?_authenticated hgood hauth]
    rw [hstart] at hle ⊢
    simp only [Option.some.injEq, exists_eq_left', Tiles, kMandatorySize, loginOffset,
      credentialsEnd] at hle ⊢
    constructor
    · rintro ⟨_, _, _, _, _, _, hstop⟩
      omega
    · intro hfits
      refine ⟨trivial, ?_, ?_, ?_, ?_, ?_, ?_⟩ <;> omega
  · have hstart : messageStart package = kMandatorySize := if_neg hauth
    rw [intervals?_plain hgood hauth]
    rw [hstart] at hle ⊢
    simp only [Option.some.injEq, exists_eq_left', Tiles] at hle ⊢
    constructor
    · rintro ⟨_, _, hstop⟩
      omega
    · intro hfits
      refine ⟨trivial, ?_, ?_⟩ <;> omega

/-- What one construction should do: read only inside the frame, accept exactly the
grammar, and leave accessors that partition an accepted frame. -/
structure AcceptsGrammar (package : Nat -> UInt8) (length : UInt64) : Prop where
  reads_inside : forall i, i ∈ reads package length -> i < length.toNat
  isValid_iff : (of package length).isValid = true <-> Grammar package length.toNat
  partitions : (of package length).isValid = true ->
    exists intervals, (of package length).intervals? = some intervals ∧
      Tiles 0 length.toNat intervals

theorem reads_inside_iff (package : Nat -> UInt8) (length : UInt64) :
    (forall i, i ∈ reads package length -> i < length.toNat) <->
      (kMandatorySize ≤ length.toNat -> FlaggedAuthenticated package ->
        SizeBytesInside package length.toNat) := by
  by_cases hlong : kMandatorySize ≤ length.toNat
  · have hflags : kFlagsOffset < length.toNat :=
      lt_of_lt_of_le (by decide) hlong
    by_cases hauth : FlaggedAuthenticated package
    · rw [reads_authenticated hlong hauth]
      simp [hlong, hauth, hflags, SizeBytesInside]
    · rw [reads_plain hlong hauth]
      simp [hauth, hflags]
  · rw [reads_short (Nat.not_le.mp hlong)]
    simp [hlong]

/-- A frame that is long enough and flagged authenticated must hold both size bytes,
and an accepted one must carry a message below 4 GiB.  The constructor looks at the
frame's length only after it has read the size bytes. -/
theorem acceptsGrammar_iff (package : Nat -> UInt8) (length : UInt64) :
    AcceptsGrammar package length <->
      (kMandatorySize ≤ length.toNat -> FlaggedAuthenticated package ->
          SizeBytesInside package length.toNat) ∧
        (Grammar package length.toNat -> MessageFits package length.toNat) := by
  constructor
  · intro h
    constructor
    · exact (reads_inside_iff package length).mp h.reads_inside
    · intro hgood
      exact (intervals_tile_iff hgood).mp
        (h.partitions ((of_isValid_iff package length).mpr hgood))
  · rintro ⟨hreads, hfits⟩
    exact
      { reads_inside := (reads_inside_iff package length).mpr hreads
        isValid_iff := of_isValid_iff package length
        partitions := by
          intro hvalid
          have hgood := (of_isValid_iff package length).mp hvalid
          exact (intervals_tile_iff hgood).mpr (hfits hgood) }

def bareAuthenticatedHeader : Nat -> UInt8 :=
  fun i => if i = kFlagsOffset then TcpFlags.authenticated.byte else 0

theorem bareAuthenticatedHeader_read_outside :
    ¬ AcceptsGrammar bareAuthenticatedHeader 22 := by
  intro h
  have hread : kAuthOffset ∈ reads bareAuthenticatedHeader 22 := by decide
  exact absurd (h.reads_inside kAuthOffset hread) (by decide)

end TcpPackageView

end Wire
end EventStoreClient
