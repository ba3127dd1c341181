import A64.Condition
import A64.Operation.Basic
import A64.Symbol

/-!
The mnemonics of operations and the symbols under which reports record them.
-/

namespace A64.Operation

/-- The printed mnemonic. -/
def name : Operation → String
  | .undefined => "undefined" | .abs => "abs" | .adc => "adc" | .adcs => "adcs" | .add => "add"
  | .addhn => "addhn" | .addhn2 => "addhn2" | .addp => "addp" | .adds => "adds" | .addv => "addv"
  | .adr => "adr" | .adrp => "adrp" | .aesd => "aesd" | .aese => "aese" | .aesimc => "aesimc"
  | .aesmc => "aesmc" | .and => "and" | .ands => "ands" | .asr => "asr"
  | .addressLookup => "at" | .autda => "autda" | .autdb => "autdb" | .autdza => "autdza"
  | .autdzb => "autdzb" | .autia => "autia" | .autia1716 => "autia1716" | .autiasp => "autiasp"
  | .autiaz => "autiaz" | .autib => "autib" | .autib1716 => "autib1716" | .autibsp => "autibsp"
  | .autibz => "autibz" | .autiza => "autiza" | .autizb => "autizb" | .axflag => "axflag"
  | .b => "b" | .bcax => "bcax" | .bfc => "bfc" | .bfi => "bfi" | .bfxil => "bfxil"
  | .bic => "bic" | .bics => "bics" | .bif => "bif" | .bit => "bit" | .bl => "bl" | .blr => "blr"
  | .blraa => "blraa" | .blraaz => "blraaz" | .blrab => "blrab" | .blrabz => "blrabz"
  | .br => "br" | .braa => "braa" | .braaz => "braaz" | .brab => "brab" | .brabz => "brabz"
  | .brk => "brk" | .bsl => "bsl" | .bti => "bti" | .cas => "cas" | .casa => "casa"
  | .casab => "casab" | .casah => "casah" | .casal => "casal" | .casalb => "casalb"
  | .casalh => "casalh" | .casb => "casb" | .cash => "cash" | .casl => "casl" | .caslb => "caslb"
  | .caslh => "caslh" | .casp => "casp" | .caspa => "caspa" | .caspal => "caspal"
  | .caspl => "caspl" | .cbnz => "cbnz" | .cbz => "cbz" | .ccmn => "ccmn" | .ccmp => "ccmp"
  | .cfinv => "cfinv" | .cinc => "cinc" | .cinv => "cinv" | .clrex => "clrex" | .cls => "cls"
  | .clz => "clz" | .cmeq => "cmeq" | .cmge => "cmge" | .cmgt => "cmgt" | .cmhi => "cmhi"
  | .cmhs => "cmhs" | .cmle => "cmle" | .cmlt => "cmlt" | .cmn => "cmn" | .cmp => "cmp"
  | .cmtst => "cmtst" | .cneg => "cneg" | .cnt => "cnt" | .crc32b => "crc32b"
  | .crc32cb => "crc32cb" | .crc32ch => "crc32ch" | .crc32cw => "crc32cw" | .crc32cx => "crc32cx"
  | .crc32h => "crc32h" | .crc32w => "crc32w" | .crc32x => "crc32x" | .csdb => "csdb"
  | .csel => "csel" | .cset => "cset" | .csetm => "csetm" | .csinc => "csinc" | .csinv => "csinv"
  | .csneg => "csneg" | .dc => "dc" | .dcps1 => "dcps1" | .dcps2 => "dcps2" | .dcps3 => "dcps3"
  | .dgh => "dgh" | .dmb => "dmb" | .drps => "drps" | .dsb => "dsb" | .dup => "dup"
  | .eon => "eon" | .eor => "eor" | .eor3 => "eor3" | .eret => "eret" | .eretaa => "eretaa"
  | .eretab => "eretab" | .esb => "esb" | .ext => "ext" | .extr => "extr" | .fabd => "fabd"
  | .fabs => "fabs" | .facge => "facge" | .facgt => "facgt" | .fadd => "fadd" | .faddp => "faddp"
  | .fcadd => "fcadd" | .fccmp => "fccmp" | .fccmpe => "fccmpe" | .fcmeq => "fcmeq"
  | .fcmge => "fcmge" | .fcmgt => "fcmgt" | .fcmla => "fcmla" | .fcmle => "fcmle"
  | .fcmlt => "fcmlt" | .fcmp => "fcmp" | .fcmpe => "fcmpe" | .fcsel => "fcsel" | .fcvt => "fcvt"
  | .fcvtas => "fcvtas" | .fcvtau => "fcvtau" | .fcvtl => "fcvtl" | .fcvtl2 => "fcvtl2"
  | .fcvtms => "fcvtms" | .fcvtmu => "fcvtmu" | .fcvtn => "fcvtn" | .fcvtn2 => "fcvtn2"
  | .fcvtns => "fcvtns" | .fcvtnu => "fcvtnu" | .fcvtps => "fcvtps" | .fcvtpu => "fcvtpu"
  | .fcvtxn => "fcvtxn" | .fcvtxn2 => "fcvtxn2" | .fcvtzs => "fcvtzs" | .fcvtzu => "fcvtzu"
  | .fdiv => "fdiv" | .fjcvtzs => "fjcvtzs" | .fmadd => "fmadd" | .fmax => "fmax"
  | .fmaxnm => "fmaxnm" | .fmaxnmp => "fmaxnmp" | .fmaxnmv => "fmaxnmv" | .fmaxp => "fmaxp"
  | .fmaxv => "fmaxv" | .fmin => "fmin" | .fminnm => "fminnm" | .fminnmp => "fminnmp"
  | .fminnmv => "fminnmv" | .fminp => "fminp" | .fminv => "fminv" | .fmla => "fmla"
  | .fmls => "fmls" | .fmov => "fmov" | .fmsub => "fmsub" | .fmul => "fmul" | .fmulx => "fmulx"
  | .fneg => "fneg" | .fnmadd => "fnmadd" | .fnmsub => "fnmsub" | .fnmul => "fnmul"
  | .frecpe => "frecpe" | .frecps => "frecps" | .frecpx => "frecpx" | .frint32x => "frint32x"
  | .frint32z => "frint32z" | .frint64x => "frint64x" | .frint64z => "frint64z"
  | .frinta => "frinta" | .frinti => "frinti" | .frintm => "frintm" | .frintn => "frintn"
  | .frintp => "frintp" | .frintx => "frintx" | .frintz => "frintz" | .frsqrte => "frsqrte"
  | .frsqrts => "frsqrts" | .fsqrt => "fsqrt" | .fsub => "fsub" | .hint => "hint" | .hlt => "hlt"
  | .hvc => "hvc" | .ic => "ic" | .isb => "isb" | .ld1 => "ld1" | .ld1r => "ld1r" | .ld2 => "ld2"
  | .ld2r => "ld2r" | .ld3 => "ld3" | .ld3r => "ld3r" | .ld4 => "ld4" | .ld4r => "ld4r"
  | .ldadd => "ldadd" | .ldadda => "ldadda" | .ldaddab => "ldaddab" | .ldaddah => "ldaddah"
  | .ldaddal => "ldaddal" | .ldaddalb => "ldaddalb" | .ldaddalh => "ldaddalh"
  | .ldaddb => "ldaddb" | .ldaddh => "ldaddh" | .ldaddl => "ldaddl" | .ldaddlb => "ldaddlb"
  | .ldaddlh => "ldaddlh" | .ldapr => "ldapr" | .ldaprb => "ldaprb" | .ldaprh => "ldaprh"
  | .ldapur => "ldapur" | .ldapurb => "ldapurb" | .ldapurh => "ldapurh" | .ldapursb => "ldapursb"
  | .ldapursh => "ldapursh" | .ldapursw => "ldapursw" | .ldar => "ldar" | .ldarb => "ldarb"
  | .ldarh => "ldarh" | .ldaxp => "ldaxp" | .ldaxr => "ldaxr" | .ldaxrb => "ldaxrb"
  | .ldaxrh => "ldaxrh" | .ldclr => "ldclr" | .ldclra => "ldclra" | .ldclrab => "ldclrab"
  | .ldclrah => "ldclrah" | .ldclral => "ldclral" | .ldclralb => "ldclralb"
  | .ldclralh => "ldclralh" | .ldclrb => "ldclrb" | .ldclrh => "ldclrh" | .ldclrl => "ldclrl"
  | .ldclrlb => "ldclrlb" | .ldclrlh => "ldclrlh" | .ldeor => "ldeor" | .ldeora => "ldeora"
  | .ldeorab => "ldeorab" | .ldeorah => "ldeorah" | .ldeoral => "ldeoral"
  | .ldeoralb => "ldeoralb" | .ldeoralh => "ldeoralh" | .ldeorb => "ldeorb" | .ldeorh => "ldeorh"
  | .ldeorl => "ldeorl" | .ldeorlb => "ldeorlb" | .ldeorlh => "ldeorlh" | .ldlar => "ldlar"
  | .ldlarb => "ldlarb" | .ldlarh => "ldlarh" | .ldnp => "ldnp" | .ldp => "ldp"
  | .ldpsw => "ldpsw" | .ldr => "ldr" | .ldraa => "ldraa" | .ldrab => "ldrab" | .ldrb => "ldrb"
  | .ldrh => "ldrh" | .ldrsb => "ldrsb" | .ldrsh => "ldrsh" | .ldrsw => "ldrsw"
  | .ldset => "ldset" | .ldseta => "ldseta" | .ldsetab => "ldsetab" | .ldsetah => "ldsetah"
  | .ldsetal => "ldsetal" | .ldsetalb => "ldsetalb" | .ldsetalh => "ldsetalh"
  | .ldsetb => "ldsetb" | .ldseth => "ldseth" | .ldsetl => "ldsetl" | .ldsetlb => "ldsetlb"
  | .ldsetlh => "ldsetlh" | .ldsmax => "ldsmax" | .ldsmaxa => "ldsmaxa" | .ldsmaxab => "ldsmaxab"
  | .ldsmaxah => "ldsmaxah" | .ldsmaxal => "ldsmaxal" | .ldsmaxalb => "ldsmaxalb"
  | .ldsmaxalh => "ldsmaxalh" | .ldsmaxb => "ldsmaxb" | .ldsmaxh => "ldsmaxh"
  | .ldsmaxl => "ldsmaxl" | .ldsmaxlb => "ldsmaxlb" | .ldsmaxlh => "ldsmaxlh"
  | .ldsmin => "ldsmin" | .ldsmina => "ldsmina" | .ldsminab => "ldsminab"
  | .ldsminah => "ldsminah" | .ldsminal => "ldsminal" | .ldsminalb => "ldsminalb"
  | .ldsminalh => "ldsminalh" | .ldsminb => "ldsminb" | .ldsminh => "ldsminh"
  | .ldsminl => "ldsminl" | .ldsminlb => "ldsminlb" | .ldsminlh => "ldsminlh" | .ldtr => "ldtr"
  | .ldtrb => "ldtrb" | .ldtrh => "ldtrh" | .ldtrsb => "ldtrsb" | .ldtrsh => "ldtrsh"
  | .ldtrsw => "ldtrsw" | .ldumax => "ldumax" | .ldumaxa => "ldumaxa" | .ldumaxab => "ldumaxab"
  | .ldumaxah => "ldumaxah" | .ldumaxal => "ldumaxal" | .ldumaxalb => "ldumaxalb"
  | .ldumaxalh => "ldumaxalh" | .ldumaxb => "ldumaxb" | .ldumaxh => "ldumaxh"
  | .ldumaxl => "ldumaxl" | .ldumaxlb => "ldumaxlb" | .ldumaxlh => "ldumaxlh"
  | .ldumin => "ldumin" | .ldumina => "ldumina" | .lduminab => "lduminab"
  | .lduminah => "lduminah" | .lduminal => "lduminal" | .lduminalb => "lduminalb"
  | .lduminalh => "lduminalh" | .lduminb => "lduminb" | .lduminh => "lduminh"
  | .lduminl => "lduminl" | .lduminlb => "lduminlb" | .lduminlh => "lduminlh" | .ldur => "ldur"
  | .ldurb => "ldurb" | .ldurh => "ldurh" | .ldursb => "ldursb" | .ldursh => "ldursh"
  | .ldursw => "ldursw" | .ldxp => "ldxp" | .ldxr => "ldxr" | .ldxrb => "ldxrb"
  | .ldxrh => "ldxrh" | .lsl => "lsl" | .lsr => "lsr" | .madd => "madd" | .mla => "mla"
  | .mls => "mls" | .mneg => "mneg" | .mov => "mov" | .movi => "movi" | .movk => "movk"
  | .movn => "movn" | .movz => "movz" | .mrs => "mrs" | .msr => "msr" | .msub => "msub"
  | .mul => "mul" | .mvn => "mvn" | .mvni => "mvni" | .neg => "neg" | .negs => "negs"
  | .ngc => "ngc" | .ngcs => "ngcs" | .nop => "nop" | .orn => "orn" | .orr => "orr"
  | .pacda => "pacda" | .pacdb => "pacdb" | .pacdza => "pacdza" | .pacdzb => "pacdzb"
  | .pacga => "pacga" | .pacia => "pacia" | .pacia1716 => "pacia1716" | .paciasp => "paciasp"
  | .paciaz => "paciaz" | .pacib => "pacib" | .pacib1716 => "pacib1716" | .pacibsp => "pacibsp"
  | .pacibz => "pacibz" | .paciza => "paciza" | .pacizb => "pacizb" | .pmul => "pmul"
  | .pmull => "pmull" | .pmull2 => "pmull2" | .prfm => "prfm" | .prfum => "prfum" | .psb => "psb"
  | .pssbb => "pssbb" | .raddhn => "raddhn" | .raddhn2 => "raddhn2" | .rax1 => "rax1"
  | .rbit => "rbit" | .ret => "ret" | .retaa => "retaa" | .retab => "retab" | .rev => "rev"
  | .rev16 => "rev16" | .rev32 => "rev32" | .rev64 => "rev64" | .rmif => "rmif" | .ror => "ror"
  | .rshrn => "rshrn" | .rshrn2 => "rshrn2" | .rsubhn => "rsubhn" | .rsubhn2 => "rsubhn2"
  | .saba => "saba" | .sabal => "sabal" | .sabal2 => "sabal2" | .sabd => "sabd"
  | .sabdl => "sabdl" | .sabdl2 => "sabdl2" | .sadalp => "sadalp" | .saddl => "saddl"
  | .saddl2 => "saddl2" | .saddlp => "saddlp" | .saddlv => "saddlv" | .saddw => "saddw"
  | .saddw2 => "saddw2" | .sb => "sb" | .sbc => "sbc" | .sbcs => "sbcs" | .sbfiz => "sbfiz"
  | .sbfm => "sbfm" | .sbfx => "sbfx" | .scvtf => "scvtf" | .sdiv => "sdiv" | .sdot => "sdot"
  | .setf16 => "setf16" | .setf8 => "setf8" | .sev => "sev" | .sevl => "sevl" | .sha1c => "sha1c"
  | .sha1h => "sha1h" | .sha1m => "sha1m" | .sha1p => "sha1p" | .sha1su0 => "sha1su0"
  | .sha1su1 => "sha1su1" | .sha256h => "sha256h" | .sha256h2 => "sha256h2"
  | .sha256su0 => "sha256su0" | .sha256su1 => "sha256su1" | .sha512h => "sha512h"
  | .sha512h2 => "sha512h2" | .sha512su0 => "sha512su0" | .sha512su1 => "sha512su1"
  | .shadd => "shadd" | .shl => "shl" | .shll => "shll" | .shll2 => "shll2" | .shrn => "shrn"
  | .shrn2 => "shrn2" | .shsub => "shsub" | .sli => "sli" | .sm3partw1 => "sm3partw1"
  | .sm3partw2 => "sm3partw2" | .sm3ss1 => "sm3ss1" | .sm3tt1a => "sm3tt1a"
  | .sm3tt1b => "sm3tt1b" | .sm3tt2a => "sm3tt2a" | .sm3tt2b => "sm3tt2b" | .sm4e => "sm4e"
  | .sm4ekey => "sm4ekey" | .smaddl => "smaddl" | .smax => "smax" | .smaxp => "smaxp"
  | .smaxv => "smaxv" | .smc => "smc" | .smin => "smin" | .sminp => "sminp" | .sminv => "sminv"
  | .smlal => "smlal" | .smlal2 => "smlal2" | .smlsl => "smlsl" | .smlsl2 => "smlsl2"
  | .smnegl => "smnegl" | .smov => "smov" | .smsubl => "smsubl" | .smulh => "smulh"
  | .smull => "smull" | .smull2 => "smull2" | .sqabs => "sqabs" | .sqadd => "sqadd"
  | .sqdmlal => "sqdmlal" | .sqdmlal2 => "sqdmlal2" | .sqdmlsl => "sqdmlsl"
  | .sqdmlsl2 => "sqdmlsl2" | .sqdmulh => "sqdmulh" | .sqdmull => "sqdmull"
  | .sqdmull2 => "sqdmull2" | .sqneg => "sqneg" | .sqrdmlah => "sqrdmlah"
  | .sqrdmlsh => "sqrdmlsh" | .sqrdmulh => "sqrdmulh" | .sqrshl => "sqrshl"
  | .sqrshrn => "sqrshrn" | .sqrshrn2 => "sqrshrn2" | .sqrshrun => "sqrshrun"
  | .sqrshrun2 => "sqrshrun2" | .sqshl => "sqshl" | .sqshlu => "sqshlu" | .sqshrn => "sqshrn"
  | .sqshrn2 => "sqshrn2" | .sqshrun => "sqshrun" | .sqshrun2 => "sqshrun2" | .sqsub => "sqsub"
  | .sqxtn => "sqxtn" | .sqxtn2 => "sqxtn2" | .sqxtun => "sqxtun" | .sqxtun2 => "sqxtun2"
  | .srhadd => "srhadd" | .sri => "sri" | .srshl => "srshl" | .srshr => "srshr"
  | .srsra => "srsra" | .ssbb => "ssbb" | .sshl => "sshl" | .sshll => "sshll"
  | .sshll2 => "sshll2" | .sshr => "sshr" | .ssra => "ssra" | .ssubl => "ssubl"
  | .ssubl2 => "ssubl2" | .ssubw => "ssubw" | .ssubw2 => "ssubw2" | .st1 => "st1" | .st2 => "st2"
  | .st3 => "st3" | .st4 => "st4" | .stadd => "stadd" | .staddb => "staddb" | .staddh => "staddh"
  | .staddl => "staddl" | .staddlb => "staddlb" | .staddlh => "staddlh" | .stclr => "stclr"
  | .stclrb => "stclrb" | .stclrh => "stclrh" | .stclrl => "stclrl" | .stclrlb => "stclrlb"
  | .stclrlh => "stclrlh" | .steor => "steor" | .steorb => "steorb" | .steorh => "steorh"
  | .steorl => "steorl" | .steorlb => "steorlb" | .steorlh => "steorlh" | .stllr => "stllr"
  | .stllrb => "stllrb" | .stllrh => "stllrh" | .stlr => "stlr" | .stlrb => "stlrb"
  | .stlrh => "stlrh" | .stlur => "stlur" | .stlurb => "stlurb" | .stlurh => "stlurh"
  | .stlxp => "stlxp" | .stlxr => "stlxr" | .stlxrb => "stlxrb" | .stlxrh => "stlxrh"
  | .stnp => "stnp" | .stp => "stp" | .str => "str" | .strb => "strb" | .strh => "strh"
  | .stset => "stset" | .stsetb => "stsetb" | .stseth => "stseth" | .stsetl => "stsetl"
  | .stsetlb => "stsetlb" | .stsetlh => "stsetlh" | .stsmax => "stsmax" | .stsmaxb => "stsmaxb"
  | .stsmaxh => "stsmaxh" | .stsmaxl => "stsmaxl" | .stsmaxlb => "stsmaxlb"
  | .stsmaxlh => "stsmaxlh" | .stsmin => "stsmin" | .stsminb => "stsminb" | .stsminh => "stsminh"
  | .stsminl => "stsminl" | .stsminlb => "stsminlb" | .stsminlh => "stsminlh" | .sttr => "sttr"
  | .sttrb => "sttrb" | .sttrh => "sttrh" | .stumax => "stumax" | .stumaxb => "stumaxb"
  | .stumaxh => "stumaxh" | .stumaxl => "stumaxl" | .stumaxlb => "stumaxlb"
  | .stumaxlh => "stumaxlh" | .stumin => "stumin" | .stuminb => "stuminb" | .stuminh => "stuminh"
  | .stuminl => "stuminl" | .stuminlb => "stuminlb" | .stuminlh => "stuminlh" | .stur => "stur"
  | .sturb => "sturb" | .sturh => "sturh" | .stxp => "stxp" | .stxr => "stxr" | .stxrb => "stxrb"
  | .stxrh => "stxrh" | .sub => "sub" | .subhn => "subhn" | .subhn2 => "subhn2" | .subs => "subs"
  | .suqadd => "suqadd" | .svc => "svc" | .swp => "swp" | .swpa => "swpa" | .swpab => "swpab"
  | .swpah => "swpah" | .swpal => "swpal" | .swpalb => "swpalb" | .swpalh => "swpalh"
  | .swpb => "swpb" | .swph => "swph" | .swpl => "swpl" | .swplb => "swplb" | .swplh => "swplh"
  | .sxtb => "sxtb" | .sxth => "sxth" | .sxtl => "sxtl" | .sxtl2 => "sxtl2" | .sxtw => "sxtw"
  | .sys => "sys" | .sysl => "sysl" | .tbl => "tbl" | .tbnz => "tbnz" | .tbx => "tbx"
  | .tbz => "tbz" | .tlbi => "tlbi" | .trn1 => "trn1" | .trn2 => "trn2" | .tsb => "tsb"
  | .tst => "tst" | .uaba => "uaba" | .uabal => "uabal" | .uabal2 => "uabal2" | .uabd => "uabd"
  | .uabdl => "uabdl" | .uabdl2 => "uabdl2" | .uadalp => "uadalp" | .uaddl => "uaddl"
  | .uaddl2 => "uaddl2" | .uaddlp => "uaddlp" | .uaddlv => "uaddlv" | .uaddw => "uaddw"
  | .uaddw2 => "uaddw2" | .ubfiz => "ubfiz" | .ubfm => "ubfm" | .ubfx => "ubfx"
  | .ucvtf => "ucvtf" | .udiv => "udiv" | .udot => "udot" | .uhadd => "uhadd" | .uhsub => "uhsub"
  | .umaddl => "umaddl" | .umax => "umax" | .umaxp => "umaxp" | .umaxv => "umaxv"
  | .umin => "umin" | .uminp => "uminp" | .uminv => "uminv" | .umlal => "umlal"
  | .umlal2 => "umlal2" | .umlsl => "umlsl" | .umlsl2 => "umlsl2" | .umnegl => "umnegl"
  | .umov => "umov" | .umsubl => "umsubl" | .umulh => "umulh" | .umull => "umull"
  | .umull2 => "umull2" | .uqadd => "uqadd" | .uqrshl => "uqrshl" | .uqrshrn => "uqrshrn"
  | .uqrshrn2 => "uqrshrn2" | .uqshl => "uqshl" | .uqshrn => "uqshrn" | .uqshrn2 => "uqshrn2"
  | .uqsub => "uqsub" | .uqxtn => "uqxtn" | .uqxtn2 => "uqxtn2" | .urecpe => "urecpe"
  | .urhadd => "urhadd" | .urshl => "urshl" | .urshr => "urshr" | .ursqrte => "ursqrte"
  | .ursra => "ursra" | .ushl => "ushl" | .ushll => "ushll" | .ushll2 => "ushll2"
  | .ushr => "ushr" | .usqadd => "usqadd" | .usra => "usra" | .usubl => "usubl"
  | .usubl2 => "usubl2" | .usubw => "usubw" | .usubw2 => "usubw2" | .uxtb => "uxtb"
  | .uxth => "uxth" | .uxtl => "uxtl" | .uxtl2 => "uxtl2" | .uzp1 => "uzp1" | .uzp2 => "uzp2"
  | .wfe => "wfe" | .wfi => "wfi" | .xaflag => "xaflag" | .xar => "xar" | .xpacd => "xpacd"
  | .xpaci => "xpaci" | .xpaclri => "xpaclri" | .xtn => "xtn" | .xtn2 => "xtn2"
  | .yield => "yield" | .zip1 => "zip1" | .zip2 => "zip2"
  | .bEq => "b.eq" | .bNe => "b.ne" | .bCs => "b.hs" | .bCc => "b.lo" | .bMi => "b.mi"
  | .bPl => "b.pl" | .bVs => "b.vs" | .bVc => "b.vc" | .bHi => "b.hi" | .bLs => "b.ls"
  | .bGe => "b.ge" | .bLt => "b.lt" | .bGt => "b.gt" | .bLe => "b.le" | .bAl => "b.al"
  | .bNv => "b.nv"

/-- The branch taken under a condition. -/
def branchIf : Condition → Operation
  | .eq => .bEq | .ne => .bNe | .cs => .bCs | .cc => .bCc | .mi => .bMi | .pl => .bPl
  | .vs => .bVs | .vc => .bVc | .hi => .bHi | .ls => .bLs | .ge => .bGe | .lt => .bLt
  | .gt => .bGt | .le => .bLe | .al => .bAl | .nv => .bNv

/-- The condition of a conditional branch. -/
def condition? : Operation → Option Condition
  | .bEq => some .eq | .bNe => some .ne | .bCs => some .cs | .bCc => some .cc | .bMi => some .mi
  | .bPl => some .pl | .bVs => some .vs | .bVc => some .vc | .bHi => some .hi | .bLs => some .ls
  | .bGe => some .ge | .bLt => some .lt | .bGt => some .gt | .bLe => some .le | .bAl => some .al
  | .bNv => some .nv
  | _ => none

/-- The symbol of an operation: its mnemonic with a capital, a condition in its own symbol. -/
def symbol (op : Operation) : String :=
  match op.condition? with
  | some c => "B" ++ c.symbol
  | none => Symbol.ofName op.name

/-- The operation with the given symbol. -/
def ofSymbol? (s : String) : Option Operation := all.find? (·.symbol == s)

end A64.Operation
