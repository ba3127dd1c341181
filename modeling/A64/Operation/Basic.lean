/-!
The operations of decoded instructions, one per printed mnemonic.

Aliases are operations of their own, and a conditional branch carries its condition in its
mnemonic. The order of the constructors is the order in which the operations are listed.
-/

namespace A64

/-- What an instruction does, as its mnemonic names it. -/
inductive Operation where
  | undefined | abs | adc | adcs | add | addhn | addhn2 | addp | adds | addv | adr | adrp | aesd
  | aese | aesimc | aesmc | and | ands | asr | addressLookup | autda | autdb | autdza | autdzb
  | autia | autia1716 | autiasp | autiaz | autib | autib1716 | autibsp | autibz | autiza | autizb
  | axflag | b | bcax | bfc | bfi | bfxil | bic | bics | bif | bit | bl | blr | blraa | blraaz
  | blrab | blrabz | br | braa | braaz | brab | brabz | brk | bsl | bti | cas | casa | casab
  | casah | casal | casalb | casalh | casb | cash | casl | caslb | caslh | casp | caspa | caspal
  | caspl | cbnz | cbz | ccmn | ccmp | cfinv | cinc | cinv | clrex | cls | clz | cmeq | cmge
  | cmgt | cmhi | cmhs | cmle | cmlt | cmn | cmp | cmtst | cneg | cnt | crc32b | crc32cb | crc32ch
  | crc32cw | crc32cx | crc32h | crc32w | crc32x | csdb | csel | cset | csetm | csinc | csinv
  | csneg | dc | dcps1 | dcps2 | dcps3 | dgh | dmb | drps | dsb | dup | eon | eor | eor3 | eret
  | eretaa | eretab | esb | ext | extr | fabd | fabs | facge | facgt | fadd | faddp | fcadd
  | fccmp | fccmpe | fcmeq | fcmge | fcmgt | fcmla | fcmle | fcmlt | fcmp | fcmpe | fcsel | fcvt
  | fcvtas | fcvtau | fcvtl | fcvtl2 | fcvtms | fcvtmu | fcvtn | fcvtn2 | fcvtns | fcvtnu | fcvtps
  | fcvtpu | fcvtxn | fcvtxn2 | fcvtzs | fcvtzu | fdiv | fjcvtzs | fmadd | fmax | fmaxnm | fmaxnmp
  | fmaxnmv | fmaxp | fmaxv | fmin | fminnm | fminnmp | fminnmv | fminp | fminv | fmla | fmls
  | fmov | fmsub | fmul | fmulx | fneg | fnmadd | fnmsub | fnmul | frecpe | frecps | frecpx
  | frint32x | frint32z | frint64x | frint64z | frinta | frinti | frintm | frintn | frintp
  | frintx | frintz | frsqrte | frsqrts | fsqrt | fsub | hint | hlt | hvc | ic | isb | ld1 | ld1r
  | ld2 | ld2r | ld3 | ld3r | ld4 | ld4r | ldadd | ldadda | ldaddab | ldaddah | ldaddal | ldaddalb
  | ldaddalh | ldaddb | ldaddh | ldaddl | ldaddlb | ldaddlh | ldapr | ldaprb | ldaprh | ldapur
  | ldapurb | ldapurh | ldapursb | ldapursh | ldapursw | ldar | ldarb | ldarh | ldaxp | ldaxr
  | ldaxrb | ldaxrh | ldclr | ldclra | ldclrab | ldclrah | ldclral | ldclralb | ldclralh | ldclrb
  | ldclrh | ldclrl | ldclrlb | ldclrlh | ldeor | ldeora | ldeorab | ldeorah | ldeoral | ldeoralb
  | ldeoralh | ldeorb | ldeorh | ldeorl | ldeorlb | ldeorlh | ldlar | ldlarb | ldlarh | ldnp | ldp
  | ldpsw | ldr | ldraa | ldrab | ldrb | ldrh | ldrsb | ldrsh | ldrsw | ldset | ldseta | ldsetab
  | ldsetah | ldsetal | ldsetalb | ldsetalh | ldsetb | ldseth | ldsetl | ldsetlb | ldsetlh
  | ldsmax | ldsmaxa | ldsmaxab | ldsmaxah | ldsmaxal | ldsmaxalb | ldsmaxalh | ldsmaxb | ldsmaxh
  | ldsmaxl | ldsmaxlb | ldsmaxlh | ldsmin | ldsmina | ldsminab | ldsminah | ldsminal | ldsminalb
  | ldsminalh | ldsminb | ldsminh | ldsminl | ldsminlb | ldsminlh | ldtr | ldtrb | ldtrh | ldtrsb
  | ldtrsh | ldtrsw | ldumax | ldumaxa | ldumaxab | ldumaxah | ldumaxal | ldumaxalb | ldumaxalh
  | ldumaxb | ldumaxh | ldumaxl | ldumaxlb | ldumaxlh | ldumin | ldumina | lduminab | lduminah
  | lduminal | lduminalb | lduminalh | lduminb | lduminh | lduminl | lduminlb | lduminlh | ldur
  | ldurb | ldurh | ldursb | ldursh | ldursw | ldxp | ldxr | ldxrb | ldxrh | lsl | lsr | madd
  | mla | mls | mneg | mov | movi | movk | movn | movz | mrs | msr | msub | mul | mvn | mvni | neg
  | negs | ngc | ngcs | nop | orn | orr | pacda | pacdb | pacdza | pacdzb | pacga | pacia
  | pacia1716 | paciasp | paciaz | pacib | pacib1716 | pacibsp | pacibz | paciza | pacizb | pmul
  | pmull | pmull2 | prfm | prfum | psb | pssbb | raddhn | raddhn2 | rax1 | rbit | ret | retaa
  | retab | rev | rev16 | rev32 | rev64 | rmif | ror | rshrn | rshrn2 | rsubhn | rsubhn2 | saba
  | sabal | sabal2 | sabd | sabdl | sabdl2 | sadalp | saddl | saddl2 | saddlp | saddlv | saddw
  | saddw2 | sb | sbc | sbcs | sbfiz | sbfm | sbfx | scvtf | sdiv | sdot | setf16 | setf8 | sev
  | sevl | sha1c | sha1h | sha1m | sha1p | sha1su0 | sha1su1 | sha256h | sha256h2 | sha256su0
  | sha256su1 | sha512h | sha512h2 | sha512su0 | sha512su1 | shadd | shl | shll | shll2 | shrn
  | shrn2 | shsub | sli | sm3partw1 | sm3partw2 | sm3ss1 | sm3tt1a | sm3tt1b | sm3tt2a | sm3tt2b
  | sm4e | sm4ekey | smaddl | smax | smaxp | smaxv | smc | smin | sminp | sminv | smlal | smlal2
  | smlsl | smlsl2 | smnegl | smov | smsubl | smulh | smull | smull2 | sqabs | sqadd | sqdmlal
  | sqdmlal2 | sqdmlsl | sqdmlsl2 | sqdmulh | sqdmull | sqdmull2 | sqneg | sqrdmlah | sqrdmlsh
  | sqrdmulh | sqrshl | sqrshrn | sqrshrn2 | sqrshrun | sqrshrun2 | sqshl | sqshlu | sqshrn
  | sqshrn2 | sqshrun | sqshrun2 | sqsub | sqxtn | sqxtn2 | sqxtun | sqxtun2 | srhadd | sri
  | srshl | srshr | srsra | ssbb | sshl | sshll | sshll2 | sshr | ssra | ssubl | ssubl2 | ssubw
  | ssubw2 | st1 | st2 | st3 | st4 | stadd | staddb | staddh | staddl | staddlb | staddlh | stclr
  | stclrb | stclrh | stclrl | stclrlb | stclrlh | steor | steorb | steorh | steorl | steorlb
  | steorlh | stllr | stllrb | stllrh | stlr | stlrb | stlrh | stlur | stlurb | stlurh | stlxp
  | stlxr | stlxrb | stlxrh | stnp | stp | str | strb | strh | stset | stsetb | stseth | stsetl
  | stsetlb | stsetlh | stsmax | stsmaxb | stsmaxh | stsmaxl | stsmaxlb | stsmaxlh | stsmin
  | stsminb | stsminh | stsminl | stsminlb | stsminlh | sttr | sttrb | sttrh | stumax | stumaxb
  | stumaxh | stumaxl | stumaxlb | stumaxlh | stumin | stuminb | stuminh | stuminl | stuminlb
  | stuminlh | stur | sturb | sturh | stxp | stxr | stxrb | stxrh | sub | subhn | subhn2 | subs
  | suqadd | svc | swp | swpa | swpab | swpah | swpal | swpalb | swpalh | swpb | swph | swpl
  | swplb | swplh | sxtb | sxth | sxtl | sxtl2 | sxtw | sys | sysl | tbl | tbnz | tbx | tbz | tlbi
  | trn1 | trn2 | tsb | tst | uaba | uabal | uabal2 | uabd | uabdl | uabdl2 | uadalp | uaddl
  | uaddl2 | uaddlp | uaddlv | uaddw | uaddw2 | ubfiz | ubfm | ubfx | ucvtf | udiv | udot | uhadd
  | uhsub | umaddl | umax | umaxp | umaxv | umin | uminp | uminv | umlal | umlal2 | umlsl | umlsl2
  | umnegl | umov | umsubl | umulh | umull | umull2 | uqadd | uqrshl | uqrshrn | uqrshrn2 | uqshl
  | uqshrn | uqshrn2 | uqsub | uqxtn | uqxtn2 | urecpe | urhadd | urshl | urshr | ursqrte | ursra
  | ushl | ushll | ushll2 | ushr | usqadd | usra | usubl | usubl2 | usubw | usubw2 | uxtb | uxth
  | uxtl | uxtl2 | uzp1 | uzp2 | wfe | wfi | xaflag | xar | xpacd | xpaci | xpaclri | xtn | xtn2
  | yield | zip1 | zip2
  | bEq | bNe | bCs | bCc | bMi | bPl | bVs | bVc | bHi | bLs | bGe | bLt | bGt | bLe | bAl | bNv
  deriving DecidableEq

namespace Operation

/-- The number of operations. -/
def count : Nat := 756

/-- Every operation, in order. -/
def all : List Operation := (List.range count).map ofNat

end Operation

end A64
