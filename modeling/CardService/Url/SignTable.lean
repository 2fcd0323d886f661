import CardService.Text.Runs
import CardService.Url.Symbol

/-!
# CardService — the signs of characters

What every character beyond ASCII stands for in a domain name. In the table, a letter of a sign
marks characters that a name may contain. Of the other letters, `x` marks what no name contains,
`z` what is left out, and `t` what is replaced by other characters.
-/

namespace CardService.Url

/-- What a character beyond ASCII stands for in a domain name. -/
inductive Standing where
  | refused
  | omitted
  | replaced
  | sign (sign : Sign)
  deriving DecidableEq

/-- The standing that a letter of the table marks. -/
def Standing.ofLetter (letter : Char) : Standing :=
  if letter = 'z' then .omitted
  else if letter = 't' then .replaced
  else
    match Sign.ofLetter? letter with
    | some s => .sign s
    | none => .refused

/-- The runs from the first character beyond ASCII on. -/
private def signRuns : List String := [
  "x20tn7tntn2zntn2t4n2t3nt3nt17nt7l18nl8tltltltltltltltltltltltltltltltltltltltltltltltltlt3lt",
  "l2tltltlt3ltltltlt2ltltltltltltltltltltltltltltltltltltltltltltlt2ltltltlt2ltlt2lt3l2t4lt2l",
  "t3l3t2lt2ltltlt2ltl2tlt2lt3ltlt2l3tl7taltltltltltltltl2tltltltltltltltltl2t4lt3ltltltltltltl",
  "tltltltltltltltltltltltltltltltltltltltltltltl7t2lt2l2tlt4ltltltltl61t9n2l7nel2n6t6n2t5n9l",
  "n11m40t2mt3m9zm20tltltntlx2tl3t2x4t7xtxt2lt11xt9l23t8ltltltltltltltltltltltltlt3lt2ntlt2l2",
  "t33l30tltltltltltltltltltltltltltltltltl2m7tltltltltltltltltltltltltltltltltltltltltltltltlt",
  "ltltlt2ltltltltltltl2tltltltltltltltltltltltltltltltltltltltltltltltltltltltltltltltltltltlt",
  "ltltltltltltltltltltltltlxt26xl2ftl2nlxn3xm2drmrm2rm2rm2x7r1bx4r6x11n2rn2rnrn2mbrxr3urj4ujuj",
  "u5j4udru7ju2m15qanq2ru2mj3rt4ufj12u26ju2j9ujuju2j2rjm7xnm6r2m2nm4j2pau3r2urex2jmu3j5u4ju9juj",
  "uju2jm1bx2jubj3ufj2u4juj2u3j2u6r26mbrxerau21m9r2n4rx2mr18m4rm9rm3rm5x2rfxju5j2ujuajuj3m3x2rx",
  "uru4rjuj2x5j13r3ur2u5jux7m9uaj3rju2j2u6jufrm18xm20kl36mkmlk3m8k4vk2lm7t8l2m2l1dmk2xl8x2l2x2",
  "l16xl7xlx3l4x2mlk3m4x2k2x2k2vlx8kx4t2xtl2m2x2lcn2l7nl2mx2m2kxl6x4l2x2l16xl7xltxltxl2x2mxk3m2",
  "x4m2x2m2vx3mx7t3lxtx7lam2l3mlxam2kxl9xl3xl16xl7xl2xl5x2mlk3m5xm2kxk2vx2lxfl2m2x2lbnx7lm6xmk2",
  "xl8x2l2x2l16xl7xl2xl5x2mlkmkm4x2k2x2k2vx7m2kx4t2xl3m2x2l12xamlxl6x3l3xl4x3l2xlxl2x3l2x3l3x3",
  "lcx4k2mk2x3k3xk3vx2lx6kxeldn8x5mk3ml8xl3xl17xl10x2mlm3k4xm3xm3vx7m2xl3xl2x2l2m2x2lax7ln7l2m",
  "k2l9xl3xl17xlaxl5x2mlkKk5xKk2xk2mvx7k2x5l3xl2m2x2laxl2kxcm2k2l9xl3xl29v2lk3m4xk3xk3vl2x4l3k",
  "lam2x2l1axmk2xl12x3l18xl9xlx2l7x3vx4k3m3xmxk8x6lax2k2lxcl30mltm6vx4nl7m8ldx25l2xlxl5xl18xlx",
  "lamltm6vm2lx2l5xlxm7xlax2t2l2x20lctlbm2l1bmlmlmn4k2l3tl4xl4tl4tl4tl4tlctl3x4m2tmt5m5kmtm2vl",
  "m2l5m6tm4xm4tm4tm4tm4tmctm3xl8ml6xldx25l2bk2m4km6kv2k2m2l17k2m2l4m3lk3l2k7l3m4ldmk2m2k6mlkla",
  "k3ml2t26xtx5tx2l2ctl62z2le8xl4x2l7xlxl4x2l29xl4x2l21xl4x2l7xlxl4x2lfxl39xl4x2l43x2m3l1dx3l10",
  "nax6l56x2t6x2nl27fxl1an2x3l59x7l12m2vwx9l13m2wl2x9l12m2xcldxl3xm2xcl34z2km7k8mk2m9vml7nlmx2",
  "lax6nax6n7sn3z5lax6i59x7l5m2i22mix5l46xal1fxm3k4m2k3x4k2mk6m3x4nx3n2l28x2l5xbl2cx4l1ax6lbx3",
  "n22l17m2k2mx2l37kmkm7xvkmk2m8k6max2mlax6lax6lex2m2ex2mcx14m4kl2fmkm4kawl8xl1dm9lcm2kl1ekm4k2",
  "m2wvm2l38mkm2k3mkm3w2x8l28k8m8k2m2x3lfx3l33talx5t2bx2t3l8x8m3lmdkm7l4ml6ml2km2lx5l2ct3ltbl",
  "t12lt1cldtl22t25m40tltltltltltltltltltltltltltltltltltltltltltltltltltltltltltltltltltltltlt",
  "ltltltltltltltltltltltltltltltltltltltltltltltltltltltltltltltltltltltltltltl5t2l2tltltltltl",
  "tltltltltltltltltltltltltltltltltltltltltltltltltltltltltltltltltltltltltltltltltltltltl9t8",
  "l6x2t6x2l8t8l8t8l6x2t6x2l8xtxtxtxtl8t8ltltltltltltltx2t30l2t3xltexlt9l3tx2l2t4xt3l3tl4t8x2t3",
  "xlt8xtbzx4ntn5tncx3nx7tn3t2nt2n4tntn8t3ndtn7tz5x5z6t2x2t1bltdx3n8tn1bxcm21xft4nt3ntbnt2n2t5",
  "n2t3ntntntnt4ntbnt6n4t5n4l2t30l3tl5tn2x4n9ct2nt2nf8t2nbl45n1aln94x16nbx15t28x14t4fn1c1ln153",
  "l100n10ctn67t3n65tn97x2n8at30l30tlt3l2tltltlt4ltl2tl6t5ltltltltltltltltltltltltltltltltltltl",
  "tltltltltltltltltltltltltltltltltltltltltltltltltltltltltltltl2n6tltlm3tlx5n7l26xlx5lx2l38x7",
  "tlxevl17x9l7xl7xl7xl7xl7xl7xl7xl7xm20n5ex2nx1fn1axn4tn53txctd6x2atntn2l3n19l9m4k2nl5tnt3l2n3",
  "xl56x2m2t2l2tnl5anl3tx5l2bxt33zt2axl2tel20n26xal10t1fxt28l8t2flt142xt4xt10xt27l19c0n40l568d",
  "x3n37x9l13dn3l1cx14tltltltltltltltltltltltltltltltltltltltltltltl2m4nman2tltltltltltltltltlt",
  "ltltltltlt2m2l50m2l6x8n22tltltltltltltl3tltltltltltltltltltltltltltltltltltltltltltltltltltl",
  "tltltltltltl8tltlt2ltltltltlnl2tltl2tltl3tltltltltltltltltltlt5lt5ltltltltltltltlt4ltlt2ltlt",
  "ltltltltltltlx13t5l2t2l8ml3vl4ml17k2m2kn4vx3l8n2x6i32hln4x8k2l32k10vmx8lcx6m12ldml26m8l19mbk",
  "wxbl1ex3m3kl2fmk2m4k2m2k2wldxlbx4l7ml19xl29m6k2m2k2m2x9l3ml8mkx2lax2l1fkmkl32mlm3l2m2l5m2lml",
  "x18l10km2k2l5kvxal6x2l6x2l6x9l7xl7xl2ct4l9tn2x4t50l23k2mk2mk2lkvx2lax6l2ba4xcl17x4l31x2104",
  "t10el2tltl2taltltl2t2l3t44x2t6ax26t7xct5x5tmt18xt5xtxt2xt2xt6cr11n10t16bn12t40n2t36n8x20tdn3",
  "z10t2xt6x7m10xt14n2tbx2t13xt4x4t3rtxt87x2zxt9fzt1ex3t6x2t6x2t6x2t3x3t7xt7x11lcxl1axl13xl2xlf",
  "x2lex22l7bx5lnlx4l2dx3l9n4dl2xndx3nx2fl2dmx82l1dx3l31xfmp1bx4l24x9l1ex5l26m5x5l1exl25x4lex2a",
  "t28l76x2lax6t24x4l24x4l28x8l34xbltbxtfxt7xt2xlbxlfxl7xl2x3l34xcl137x9l16xal8x18lt5xt2axt9x45",
  "r6x2rxr2cxr2x3rx2r17xr48x8r9x30r13xr2x5r21x3nr1ax5r1bx26r38x4r14x2r2fm3xm2x5m4r4xr3xr1dx2m3",
  "x4vr9x7r9x7r40x20u5jrjrj2r2gj5u4gu5ju3jr2jm2x4u4jr7x9r36x3n7r16x2r1bx5r8ujuj3u3ju2juj2ujx7r4",
  "xcj4u2rx50r49x37t33xdr33x7r6gu21jum4x8qax6qar6t16x3m5nr17x8r2xd0q1fxr2axm2rx2r2x10ju2ru2x8n9",
  "x21m6r28x8u3ju11rmbu3jr5x16u4j2ucm4r4x26uru2j3ruj2u2ju2ruj2ur4jugx14r17x9kmkl35mevl7x4n14lav",
  "l2m2lx9vm2kl2dk3m4k2vml2xl4mxdl19x7lax6m3l24m5km6v2xlfk2lx8l23ml3x9m2kl30k3m9kwl8m4lkml10x",
  "l14xbl12xl19k3m3k2mwm2l6ml2mx3el7xlxl4xlfxlbx6l2fmk3m7vx5lax6m2k2xl8x2l2x2l16xl7xl2xl5xm2lk2",
  "mk4x2k2x2k2wx2lx6kx5l5k2x2m7x3m5xblaxlx2lxl26xlk3m6xkx2kxk4xk2vwvlml3xl2x8m2x1dl35k3m8k2vm2k",
  "ml15xlml3x1el30k3m6kmk4m2kvml4x8laxa6l2fk3m4x2k4m2kvml1bm2x22l30k3m8k2mkvml4xblax6ndx13l2bmk",
  "mk2m6wml2x6lax6l14x1cl1bx2mkmk2m4km4vx4l17xb9l2ck3m9kvmlx64t20l33xcl8x2lx2l8xl2xl18k6xk2x2m2",
  "wvlklkml3x9lax46l8x2l27k3m4x2m2k4vl3kx1blm6K2m2l28mvm4klm4l8vx8lm6k2m3l2emdkmvl9xdl49x7lax56",
  "mkm3kmkx58l22xelax6l9xl25km7xm6kWl6xal1dx3l20x2m16xkm7km2km2x49l7xl2xl26m6x3mxm2xm5v2lmx8la",
  "x6l6xl2xl20k5xm2xk2mkvlx7lax6l2cx4laxf6l13m2k2l2x7m2lkldxl22k2m5x3k2mwvl17mx55lxfl15n1dxd",
  "l39bx66l6fxl5xblc4xa4cl63xdl430x10ml6mfxalf9bx5l247x1ab9l1emck3m2vlax6c6l239x7l1fxlax4l51xla",
  "x6l1ex2m5lxal30m7lfxalaxl7xl15x5l13x1b0l3axc6t20l3bx5t19x2l19x2cl4bx4mlk37x7m4ldx40l2nlmxbk2",
  "l5x9l1cd6x29l20x61l73x21fdl4xl7xl2xl123xflx1dl3x2lxel4x8l18cx904l6bx5ldx3l9x7lax2lm2lz4xf5c",
  "nd6t24n3x3n1b4x6n17xfn11xfm2ex2m17x9l74x3clf6xal27x2l35t7k2m3l3k6z8m8l2m7l1em4ldt6l28n2x15",
  "n42m3nx7al14xcl14xcn57x9l19x87t55xt47xt2x2tx2t2x2t4xtcxtxt7xt41xt4x2t8xt7xt1cxt4xt5xtx3t7x",
  "t154x2t124x2t32l200m37l4m32l8mleml7xfm5xmfx450l1fx6l6xd5m7xm11x2m7xm2xm5x5t3ex21mx70l2dx3m7",
  "l7x2lax4l2x140l1emx11l2cm4lax5nx1d0l1cm4laxd6l1em2lbx4lxc0l1fxl3ml2ml7m2l5mx8l2xe0l7xl4xl2x",
  "lfxrc5x2r9m7x29t22u22m7Rx4rax4r2x311r44x4cr3dxc2t4xt1bxt2xtx2txtaxt4xtxtx6tx4txtxtxt3xt2xtx2",
  "txtxtxtxtxt2xtx2t4xt7xt4xt4xtxtaxt11x5t3xt5xt11x34n2x10en2cx4n64xcnfx2nfxnfxn25xbtan5t1fnt20",
  "l1at3n3l20tl1cnx38l1at3xdt2cx4t9x7t2xen6x9an3d9x3n11x3ndx3ndax6ncx4nxfncx4n38x8nax6n28x8n1e",
  "x2ncx4n2xen9x27n158x8nex2ndx3nbx3n39xnx4n10x2ncx4nax7n93xn5ctanx405la6e0x20l111ex2l168ex2",
  "l1d31xfl26ex9a2t21ex5e2l134bx5l212axacc86zf0"]

/-- The runs of the table. -/
def signTable : List (Char × Nat) := Text.readRuns (signRuns.flatMap String.toList)

/-- What a character beyond ASCII stands for. -/
def standingOf (c : Char) : Standing :=
  match Text.letterAt? (c.toNat - 0x80) signTable with
  | some letter => .ofLetter letter
  | none => .refused

end CardService.Url
