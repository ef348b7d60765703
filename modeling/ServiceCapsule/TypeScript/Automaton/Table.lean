import ServiceCapsule.TypeScript.Automaton.Markup.Fifth
import ServiceCapsule.TypeScript.Automaton.Markup.First
import ServiceCapsule.TypeScript.Automaton.Markup.Fourth
import ServiceCapsule.TypeScript.Automaton.Markup.Second
import ServiceCapsule.TypeScript.Automaton.Markup.Third
import ServiceCapsule.TypeScript.Automaton.Phrase
import ServiceCapsule.TypeScript.Automaton.Plain.Fifth
import ServiceCapsule.TypeScript.Automaton.Plain.First
import ServiceCapsule.TypeScript.Automaton.Plain.Fourth
import ServiceCapsule.TypeScript.Automaton.Plain.Second
import ServiceCapsule.TypeScript.Automaton.Plain.Third

/-!
# The automaton of the grammar

A state stands for all that was read so far. It says where each symbol leads, and in front of
which tokens a phrase is complete. Where a text can be read in more than one way, a state allows
more than one action. State zero is the one after a fault, and a text starts in state one. There
are two automata: one of them reads markup where the other one reads types in angle brackets. Their
tables are written as text, two letters a number. The letters are the digits of a base; blanks and
line ends between them do not count.
-/

namespace ServiceCapsule

/-! ### Packed numbers -/

namespace TypeScript
namespace Packed

def letters : List Char :=
  ("0123456789ABCDEFGHIJKLMNOPQRSTUVWXYZabcdefghijklmnopqrstuvwxyz" ++
    "!$%&()*+,.;<>?@^_|").toList

def base : Nat := letters.length

def value? (c : Char) : Option Nat := letters.idxOf? c

/-- Two values a number; a value without a partner counts for nothing. -/
def pairs : List Nat → Array Nat → Array Nat
  | high :: low :: rest, done => pairs rest (done.push (base * high + low))
  | _, done => done

def numbers (text : String) : List Nat := (pairs (text.toList.filterMap value?) #[]).toList

end Packed

/-! ### Sets of tokens -/

namespace Automaton

def packedSets : String := "
  000100000b0C0L0Q0R0U0j0m0o0z101112131415161718191A1B1C1D1E1F1G1H1I1J1K1L1P1Q1V1(2527000F0%0&0(0)
  0*0+0,0.0;0<0>0?0@0^0_0202040900030Q0z1D04010j010_01030506070A0B0D0E0G0I0J0K0L0M0N0O0P0Q0R0S0T0W
  0X0Y0Z0a0b0c0d0f0i0j0r0s0v0w0x0!0$18191A1D1M1N1O1P1Q1V1a1b1e1f1g1h1i1j1k1l1m1n1o1q1r1s1t1u1v1w1x
  1y1z1!1$1%1.1;060B0D040L0Q18191A1D1P1Q1V0803040D0o04020D0V04010D07010S0A040j0o0z1V0A011V0C0N0|00
  050D0G0I0K0M0N0O0P0R0W0X0Y0Z0a0b0c0d0f1.1;00020B0y09020o0R00020C0F00010F0C0S04090C0U0m0z10111213
  141516171B1C1E1F1G1H1I1J1K1L1(25270B0K010o0L010B02020Q1D05010z00020e1p04020Q1D00020C0D0H01250001
  080Q010j0O020e1p000T010304060A0J0j0r0s0w0!1a1b1l1m1n1o1q1r1s1t1u1v1w1x1y1z1!1$0U010409010D0D051V
  0Q0V1P1Q00030C0R2504030C0R2500030C0S0e0T011p0G010e0S020C0o0S010C0F011%0c02081p0i020D0k0c010e0Z03
  090L1(0a020D1V00020C0k0A070B0M0W0e1p1*2400010B0D020Q1D0j08090B0j0m0y15171*0O010o00060C0j0m15171*
  0r011_00020C0m0t020C0m0r01090x011p0r010j0Z021P1Q0F020Q1D0003010j1b0A0G080%0&0(0)0*0+0,0.0;0<0>0?
  0@0^0_0A010Q0a010C0Q010D0C010M04010C06010C00010C0)010F0I010D0001090O04080C0D1p0C030C0g0h0O011p0R
  010k00010e0|010e0j020U0V0a04080U0V0e04012506012509012500010v0h010v0k010k00030r1R1T00030s1S1T0A03
  0M0W240V05080C0L0R251D020D240W021%1&1F050D0R18191k0p020C1+0p011+1E02080L070A080C0e0k0m0y15171p1*
  1J020Q1D0a020D240t020S0k0b030j15170n030j151700030S1p1*0w011*0i010S00010S00011*1Q011p1O06040Q1819
  1D1V0c010800010y1P021p1*0y01151a02171*0w010j0z0315171*0y011*0r010o0h0D080C0D0S0e0k0m0y15171p1*0|
  1I03080Q1*00041T1V1W2608090L1V0o0z1213141B1C0F010S0A021*240Z011C0A0215170m07090L10111K1(271o0110
  1j041213141D1o031516171r01151o01171q0218190l011C0.040D0m15170t011*1w010V1W040C0D0R251r041F1G1H1I
  1p01111903080B0y0)020G0H00010D0C010R0C010h0b010k0f010k1+010U1D020Q1D0a012A0b020Q1V1f010z1O040Q0o
  0z1D0w010S1O040C0e0o0z1^010D1Q010S0n01081O020C0e00011T1i011T0B050B0e0k1+250n011*0v010800010o0r01
  1D1f010Q0v010B1k010o0p01230@010e1(02050f1?020Q1D1J020C0D1L020C0D00010k0T010C0b010U1N020D1p0&080B
  0S0e0k1p1+0V250+0400050D0f2D010C0S030S0e0425020S0V0b030C0S0e2R040j0o0z1V2R011V1F011k1<010B00020M
  0W04011V0C010B0Z050S0e0D0R252W010e2a03090L1(0c011V0b010V11010S1E070B0G0H0j15171*2T020Q1D0A011*2i
  011_2i011D0(021*0o2i010o2i010j2a021P1Q2N010V2R010Q2S020Q1D0j01081C01251X030U0V0C0M01252k010o2503
  0S0B1+2l011D0c010S2i01151n010j2D011*1j050S0e0D0R252R021p1*2a011C2R0215171o050S0e0D0R252+01102&04
  1213141D2+031516172;01152+01172.0218192c011C2Q02040o1O030S0e0m2*040C0V0j0m1W030C0S0e2;041F1G1H1I
  2,01112W040j15171*1M02080B0C010o1G01251w040Q0o0z1D1y020o0z2V030Q0o1D1M040j15171*2W010j1M010B0b01
  1V1C010o0A01253C010e25010S3A02080B3I011_3I010j2p011p0b030B0C1+0)021*2426011p3I011534010j3I011*3I
  010o2R011*1g040o0z0|1%1O010m1R010m0;011*2_030V0k0S1C010B0a020U0V1M01253S010z1@030S0e0m2|030V0o0z
  2|010V3I011D3S010Q3c020Q1D0&050e0C0D0R252R020B0o2R010B3T011_3T011D2q021*0o3T010o3T010j0C01253r02
  0C243n010o04010V3o011D1M011*3T01152*010j3I010Q2V070C0k0o15171p1*1w010D00020U0V1O020o0z2e010e3j04
  0C0k0V0e14010U00010U0T010V1K010F33011_33010j1|011*33011533011*33010o1P04090B1*231O010C1R010D3C01
  0o3^010z2P011D3^010Q42020Q1D0&030C0D0V1P03090D1*3s01250w02090k0T010e33011D3)010C49020o0z0B020R25
  3)020D0k40010C0Q010C0)011V1j020C0D1m020C0D1o020C0D4L01101q020C0D1r020C0D4O01154L01171u020C0D1v02
  0C0D1!020C0D4M01110?020j0k4901150*030e0k2511020R1V1j030e0k251m030e0k2511010R1o030e0k254c01101q03
  0e0k251r030e0k254f01154c01174e0218191v030e0k251!030e0k254d01110b020Q1D00011V4J020R254K020R254L02
  0R254q01104N020R254O020R254t01154q01174R020R254S020R254T020R254r01114m010e10011V4o010e4p010e4q01
  0e4r010e4s010e4t010e4u010e4v010e4w010e4x010e4y010e4z010e4m010k2J011V4o010k4p010k4q010k4r010k4s01
  0k4t010k4u010k4v010k4w010k4x010k4y010k4z010k09010C4K011C4S011C0!020C0D0Q010V0a020V1V00010W0t010S
  49011*1j020V0D1m020V0D1o020V0D5L01101q020V0D1r020V0D5O01155L01171u020V0D1v020V0D1y010D1W020R251!
  020V0D5M01110n020j1p1Z01150g01044a011C4j011C5a021P1Q4b010C0Y030e0k251w030e0k251z030e0k2537010D37
  030e0k2509010V2M010S1z020V0D5Z010V4p011C4x011C5D020R253V020B1+5h010V2x010S1@010m4&011C4<011C5p01
  0e0S021+0o1W020C1+5t020B1+4|011C57011C5p010k0f010e1W010e3d010S1W010k5t010k0f010V1W010V0b010e5t01
  0V08020C0D5K011C0|01085S011C0!020V0D1P011p1@020C0e5e020o042_010S1P011*3M020Q1D1H011V4o030B0C1+4p
  030B0C1+4q030B0C1+6801104s030B0C1+4t030B0C1+6B01156801176A0218194x030B0C1+4y030B0C1+6901114m010V
  4n010V4o010V4p010V4q010V4r010V4s010V4t010V4u010V4v010V4w010V4x010V4y010V4z010V67011C6F011C6W021P
  1Q5n010V5o010V5p010V08020V0D1@010C0w010D0S021+043V010k5Z010e3V010V5Z010k0p040l0p1D290|010S0p0401
  0m0n0q6m01080t02080m00010m6m010m6m010Q00030l0r0t00030l0s0u61010S5a010S5b010S4Y010S5c010S5d010S4Z
  010S4a010S2f010R4c010S4d010S4e010S4f010S4g010S4h010S4i010S4j010S5e010S5f010S5g010S4k010S4l010S6m
  030W0o1D0R010S5i010S3Y010D3(010D19011*3j010D0r010Q4$010D4%010D4&010D4(010D4)010D4*010D4+010D4,01
  0D4.010D4;010D4<010D4>010D4?010D5u010D5v010D5w010D5&010D5(010D5)010D5;010D62010D6h010D"

end Automaton

/-! ### States -/

inductive Action where
  /-- complete a phrase by the rule with a number -/
  | complete (rule : Nat)
  /-- take the token and go to a state; not taken where a list only goes on -/
  | take (state : Nat) (repeats : Bool)
  /-- take a comment and stay -/
  | passOver
  | accept
  /-- look for a state in which the token fits -/
  | recover
  deriving DecidableEq, Repr, Inhabited

/-- The rules by which phrases are complete in front of any token of a set. -/
structure Completion where
  /-- the set, one bit a token -/
  tokens : Nat
  rules : List Nat
  /-- whether these tokens would only continue a list -/
  repeats : Bool
  deriving Inhabited

structure Row where
  /-- the state that each symbol leads to; zero if it leads nowhere -/
  targets : Array Nat
  completions : List Completion
  /-- the tokens that fit here, one bit a token -/
  valid : Nat
  deriving Inhabited

structure Automaton where
  /-- the states in the order of their numbers -/
  rows : Array Row
  /-- the tokens that are read after a fault, one bit a token -/
  anywhere : Nat
  deriving Inhabited

namespace Automaton

/-- The states while they are unpacked. -/
structure Unpacking where
  rows : Array Row
  /-- the symbol by which each state was entered when it was last given with its symbol -/
  entries : Array Nat

/-- From here on a number is a symbol, and a state follows. -/
def explicit : Nat := 5000

/-- Change where symbols lead. A change is a state to be entered by the same symbol as the last
time, or a symbol with the state after one, or with zero where it no longer leads anywhere. -/
def change : Nat → Array Nat → Array Nat → List Nat → Array Nat × Array Nat × List Nat
  | 0, targets, entries, ns => (targets, entries, ns)
  | _, targets, entries, [] => (targets, entries, [])
  | count + 1, targets, entries, n :: ns =>
    if n < explicit then
      change count (targets.setIfInBounds (entries.getD n 0) n) entries ns
    else
      match ns with
      | 0 :: ns => change count (targets.setIfInBounds (n - explicit) 0) entries ns
      | state :: ns =>
        change count (targets.setIfInBounds (n - explicit) (state - 1))
          (entries.setIfInBounds (state - 1) (n - explicit)) ns
      | [] => (targets, entries, [])

/-- Read completions: a set with a rule, one thousand more if the tokens repeat, or with two
thousand and a number of rules, which follow. -/
def completions (sets : Array Nat) : Nat → List Nat → List Completion × List Nat
  | count + 1, set :: n :: ns =>
    let rules := if n < 2000 then [n % 1000] else ns.take (n % 1000)
    let (more, rest) := completions sets count (if n < 2000 then ns else ns.drop (n % 1000))
    (⟨sets.getD set 0, rules, n % 2000 ≥ 1000⟩ :: more, rest)
  | _, ns => ([], ns)

def bit (n : Nat) : Nat := 1 <<< n

def leading (targets : Array Nat) : Nat :=
  Nat.fold Token.count (fun t _ tokens =>
    if targets.getD t 0 == 0 then tokens else tokens ||| bit t) 0

def validTokens (targets : Array Nat) (completions : List Completion) : Nat :=
  completions.foldl (fun tokens c => tokens ||| c.tokens)
    (leading targets ||| bit Token.comment ||| bit Token.markupComment)

/-- Read states. A state is given by its changes over an earlier one, which is zero for none or
one more than its number, and by its completions; both are preceded by their numbers. -/
def unpack (sets : Array Nat) (symbols : Nat) : Nat → List Nat → Unpacking → Array Row
  | fuel + 1, base :: count :: ns, u =>
    let before := if base == 0 then Array.replicate symbols 0
      else (u.rows.getD (base - 1) default).targets
    let (targets, entries, ns) := change count before u.entries ns
    let (found, ns) := completions sets (ns.headD 0) ns.tail
    unpack sets symbols fuel ns
      ⟨u.rows.push ⟨targets, found, validTokens targets found⟩, entries⟩
  | _, _, u => u.rows

def toggle (tokens : List Nat) (set : Nat) : Nat := tokens.foldl (fun s t => s ^^^ bit t) set

def unpackSets : Nat → List Nat → Array Nat → Array Nat
  | fuel + 1, base :: count :: ns, sets =>
    let before := if base == 0 then 0 else sets.getD (base - 1) 0
    unpackSets fuel (ns.drop count) (sets.push (toggle (ns.take count) before))
  | _, _, sets => sets

def sets : Array Nat :=
  let ns := Packed.numbers packedSets
  unpackSets ns.length ns #[]

def symbolCount : Nat := Token.count + Phrase.table.size

/-- An automaton from its packed states. After a fault it reads any token but some. -/
def ofPacked (texts : List String) (notAnywhere : List Shape) : Automaton :=
  let ns := texts.flatMap Packed.numbers
  ⟨unpack sets symbolCount ns.length ns ⟨#[], Array.replicate ns.length 0⟩,
    toggle (notAnywhere.map Token.number) (bit Token.count - 1)⟩

/-- Tokens that would take in any text. -/
def greedy : List Shape :=
  [.doubleText, .singleText, .doubleMarkupText, .singleMarkupText, .characterReference,
    .dashedName, .pattern, .patternFlags, .mark "/>", .mark "?:"]

def plain : Automaton :=
  ofPacked [plainFirst, plainSecond, plainThird, plainFourth, plainFifth]
    (.mark "</" :: .markupText :: greedy)

def withMarkup : Automaton :=
  ofPacked [markupFirst, markupSecond, markupThird, markupFourth, markupFifth] greedy

/-- The state after a fault. -/
def afterFault : Nat := 0

def start : Nat := 1

def row (a : Automaton) (state : Nat) : Row := a.rows.getD state default

def valid (a : Automaton) (state : Nat) : Nat :=
  if state == afterFault then a.anywhere else (a.row state).valid

def actions (a : Automaton) (state token : Nat) : List Action :=
  if state == afterFault then
    if Token.isComment token then [.passOver]
    else if a.anywhere.testBit token then [.recover] else []
  else
    let r := a.row state
    let completion? := r.completions.find? (·.tokens.testBit token)
    let completing := (completion?.map fun c => c.rules.map fun rule =>
      if rule == Rule.table.size then .accept else .complete rule).getD []
    let target := r.targets.getD token 0
    if target != 0 then completing ++ [.take target (completion?.any (·.repeats))]
    else if completing.isEmpty && Token.isComment token then [.passOver]
    else completing

def next (a : Automaton) (state symbol : Nat) : Nat :=
  if state == afterFault then
    if Token.isComment symbol then state else afterFault
  else
    let target := (a.row state).targets.getD symbol 0
    if target == 0 && Token.isComment symbol && (a.actions state symbol).contains .passOver then
      state
    else target

def fits (a : Automaton) (state token : Nat) : Bool := !(a.actions state token).isEmpty

/-- Whether a phrase is complete in a state in front of a token. -/
def completes (a : Automaton) (state token : Nat) : Bool :=
  match a.actions state token with
  | .complete _ :: _ => true
  | _ => false

end Automaton
end TypeScript
end ServiceCapsule
