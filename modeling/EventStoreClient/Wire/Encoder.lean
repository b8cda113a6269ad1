import EventStoreClient.Wire.RoundTrip

/-!
# What the encoder emits as valid

The constructors narrow three lengths, and `is_valid` narrows the same way before it
compares.  Which packages it nevertheless passes only when the format can carry them.
-/

namespace EventStoreClient
namespace Wire

open Foundation

namespace Arguments

def CredentialsFit (a : Arguments) : Prop :=
  forall c, c ∈ a.credentials -> c.1.length ≤ 255 ∧ c.2.length ≤ 255

/-- A package that passes `is_valid` has credentials that fit their size bytes, and a
header that is the length of its body, which the reader accepts. -/
def Carried (a : Arguments) : Prop :=
  a.package.isValid = true ->
    a.CredentialsFit ∧
      lengthPrefix a.package.bytes = ((a.package.bytes.length - 4 : Nat) : Int) ∧
      LengthInRange ((a.package.bytes.length - 4 : Nat) : Int)

/-- Valid packages with the same bytes come from the same credentials and message. -/
def Distinguished (a b : Arguments) : Prop :=
  a.package.isValid = true -> b.package.isValid = true ->
    a.package.bytes = b.package.bytes ->
      a.credentials = b.credentials ∧ a.message = b.message

def FitsFormat (a : Arguments) : Prop :=
  a.Constructed -> a.CredentialsFit ∧ a.bodyLength ≤ kMaxPackageSize

/-!
# Packages that are valid

A package is valid if and only if its constructor has written a frame.
-/

/-- `is_valid` asks nothing that the constructor has not made true: both sides of its
comparison are the body length reduced the same way. -/
theorem isValid_iff (a : Arguments) : a.package.isValid = true <-> a.Constructed := by
  constructor
  · intro hvalid
    apply Classical.byContradiction
    intro h
    rw [package_of_not_constructed h] at hvalid
    simp [TcpPackage.isValid] at hvalid
  · intro h
    have hmin : 18 ≤ a.bodyLength := by
      unfold bodyLength
      omega
    have hheader : leNat (a.frame.take 4) = a.bodyLength % 2 ^ 32 := by
      rw [frame_take, leNat_leBytes, show (256 : Nat) ^ 4 = 2 ^ 32 from rfl]
    rw [package_of_constructed h]
    simp [TcpPackage.isValid, TcpPackage.isHeaderValid, TcpPackage.bytes, hmin, hheader]

/-!
# Inside the format

The reader gets the arguments back if and only if they fit the format.
-/

theorem carried_iff (a : Arguments) : a.Carried <-> a.FitsFormat := by
  have hcarried : a.Constructed -> (a.Carried <->
      a.CredentialsFit ∧ lengthPrefix a.frame = (a.bodyLength : Int) ∧
        LengthInRange (a.bodyLength : Int)) := by
    intro h
    have hvalid := (isValid_iff a).mpr h
    have hbytes : a.package.bytes = a.frame := by
      rw [package_of_constructed h]
      rfl
    unfold Carried
    rw [hbytes, frame_length, Nat.add_sub_cancel]
    exact forall_prop_of_true hvalid
  constructor
  · intro hc h
    rcases (hcarried h).mp hc with ⟨hfit, _, hrange⟩
    exact ⟨hfit, (lengthInRange_iff a).mp hrange⟩
  · intro hfits hvalid
    have h := (isValid_iff a).mp hvalid
    rcases hfits h with ⟨hfit, hmax⟩
    exact (hcarried h).mpr
      ⟨hfit, frame_lengthPrefix hmax, (lengthInRange_iff a).mpr hmax⟩ hvalid

/-!
# Different inputs, different bytes

A string behind its size byte can be split off again, so equal frames have equal flags and
fields.  A login of 256 bytes is counted as none by its size byte.
-/

theorem ofNat_inj {m n : Nat} (hm : m ≤ 255) (hn : n ≤ 255)
    (h : UInt8.ofNat m = UInt8.ofNat n) : m = n := by
  have hnat := congrArg UInt8.toNat h
  rwa [UInt8.toNat_ofNat_of_lt' (by simpa using Nat.lt_succ_of_le hm),
    UInt8.toNat_ofNat_of_lt' (by simpa using Nat.lt_succ_of_le hn)] at hnat

theorem sized_inj {s t u v : Bytes} (hs : s.length ≤ 255) (ht : t.length ≤ 255)
    (h : UInt8.ofNat s.length :: (s ++ u) = UInt8.ofNat t.length :: (t ++ v)) :
    s = t ∧ u = v := by
  injection h with hsize hrest
  exact List.append_inj hrest (ofNat_inj hs ht hsize)

theorem credentials_inj {c d : Bytes × Bytes} {u v : Bytes}
    (hc : c.1.length ≤ 255 ∧ c.2.length ≤ 255) (hd : d.1.length ≤ 255 ∧ d.2.length ≤ 255)
    (h : TcpPackage.credentials c.1 c.2 ++ u = TcpPackage.credentials d.1 d.2 ++ v) :
    c = d ∧ u = v := by
  simp only [TcpPackage.credentials, List.append_assoc, List.singleton_append] at h
  rcases sized_inj hc.left hd.left h with ⟨hlogin, hrest⟩
  rcases sized_inj hc.right hd.right hrest with ⟨hpassword, huv⟩
  exact ⟨Prod.ext hlogin hpassword, huv⟩

theorem frame_split {a b : Arguments} (h : a.frame = b.frame) :
    a.flags = b.flags ∧ a.credentialBytes ++ a.message = b.credentialBytes ++ b.message := by
  simp only [frame, List.append_assoc] at h
  have hsizes : (TcpPackage.header a.bodyLength a.command a.flags a.correlationId).length =
      (TcpPackage.header b.bodyLength b.command b.flags b.correlationId).length := by
    rw [TcpPackage.header_length, TcpPackage.header_length]
  rcases List.append_inj h hsizes with ⟨hheader, hrest⟩
  constructor
  · have hflags : a.flags.byte = b.flags.byte := by
      have hat := congrArg (fun bytes => bytes[5]?) hheader
      simpa [TcpPackage.header, leBytes] using hat
    cases ha : a.flags
    cases hb : b.flags
    rw [ha, hb] at hflags
    exact congrArg TcpFlags.mk hflags
  · exact hrest

theorem distinguished_of_fits {a b : Arguments} (ha : a.FitsFormat) (hb : b.FitsFormat) :
    Distinguished a b := by
  intro hvalidA hvalidB hbytes
  have hconA := (isValid_iff a).mp hvalidA
  have hconB := (isValid_iff b).mp hvalidB
  rw [package_of_constructed hconA, package_of_constructed hconB] at hbytes
  rcases frame_split hbytes with ⟨hflags, hrest⟩
  have hsame : a.credentials.isSome = true <-> b.credentials.isSome = true := by
    unfold Constructed at hconA hconB
    rw [← hconA, ← hconB, hflags]
  unfold credentialBytes at hrest
  cases hcredA : a.credentials with
  | none =>
      cases hcredB : b.credentials with
      | none =>
          rw [hcredA, hcredB] at hrest
          exact ⟨rfl, hrest⟩
      | some d =>
          simp [hcredA, hcredB] at hsame
  | some c =>
      cases hcredB : b.credentials with
      | none =>
          simp [hcredA, hcredB] at hsame
      | some d =>
          rw [hcredA, hcredB] at hrest
          rcases credentials_inj ((ha hconA).left c hcredA) ((hb hconB).left d hcredB)
            hrest with ⟨hcd, hmessage⟩
          exact ⟨congrArg some hcd, hmessage⟩

/-- Two calls emit only what the format carries, and bytes that tell them apart,
exactly when both keep their credentials below 256 bytes and their body below the
largest package. -/
theorem encoder_carries_iff (a b : Arguments) :
    a.Carried ∧ b.Carried ∧ Distinguished a b <-> a.FitsFormat ∧ b.FitsFormat := by
  constructor
  · rintro ⟨ha, hb, _⟩
    exact ⟨(carried_iff a).mp ha, (carried_iff b).mp hb⟩
  · rintro ⟨ha, hb⟩
    exact ⟨(carried_iff a).mpr ha, (carried_iff b).mpr hb, distinguished_of_fits ha hb⟩

def loginOf256 : Arguments :=
  { command := TcpCommand.identifyClient
    flags := TcpFlags.authenticated
    correlationId := Guid.ofByte 1
    credentials := some (List.replicate 256 0, [])
    message := [] }

def messageOf256 : Arguments :=
  { loginOf256 with
    credentials := some ([], [])
    message := List.replicate 256 0 }

theorem loginOf256_ambiguous :
    ¬ loginOf256.Carried ∧ ¬ Distinguished loginOf256 messageOf256 := by
  have hvalid : loginOf256.package.isValid = true := by decide +kernel
  have hvalid' : messageOf256.package.isValid = true := by decide +kernel
  have hbytes : loginOf256.package.bytes = messageOf256.package.bytes := by
    decide +kernel
  constructor
  · intro hcarried
    have hfit := (hcarried hvalid).left (List.replicate 256 0, []) rfl
    rw [List.length_replicate] at hfit
    exact absurd hfit.left (by decide)
  · intro hdistinct
    have hsame := (hdistinct hvalid hvalid' hbytes).right
    exact absurd hsame (by decide +kernel)

end Arguments

end Wire
end EventStoreClient
