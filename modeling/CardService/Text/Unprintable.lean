import CardService.Text.Runs

/-!
# CardService — characters that are shown by number

The characters that a quoted text shows as `\u` escapes: control and format characters, private
and unassigned ones, separators other than the space, letters that have no shape, and marks that
attach to the character in front of them.
-/

namespace CardService.Text

/-- The runs of all characters: `n` for those that are shown by number, and `s` for the others. -/
private def printingRuns : List String := [
  "n20s5fn22scns252n70s8n2s6n4s7nsns14nse0n7sa6ns26n2s32n2s3n2esnsn2sn2sn9s1bn4s6n11sanbsns2e",
  "n15s10ns65n8sn6s2n2sn4s20n2sns1en1ds59nbsnes2bn9s7n3s18n4sn9sn3sn7sfns19n5snsbn5s20n10s2an39",
  "s37nsns4n8s4ns3n7san2s1dns2ns8n2s2n2s16ns7nsn3s4n3sns2n6s2n2s2nsnds2ns3n4s18n5sns6n4s2n2s16n",
  "s7ns2ns2ns2n4s3n18s4nsn7san2s3nsncsns9ns3ns16ns7ns2ns5n3s4n8sns2n3snfs2n4scn7sn8s2ns8n2s2n2",
  "s16ns7ns2ns5n3sn2sn6s2n2s2nfs2ns3n4s12nbsns6n3s3ns4n3s2nsns2n3s2n3s3n3scn5sns2n3s3ns3n3sn15",
  "s15n6s3ns8ns3ns17ns10n3sn3s4n13s3ns2n2s2n4san7sansbns3ns17nsans5n3s2n2sns2n17s3ns2n4sans3ne",
  "sbns3ns29n2sns2n5s3ns3ns2n4s3nsan4s1an2s2ns12n3s18ns9nsn2s7n9s2n6s7n7san2s3ncs30ns2nbs8n8sd",
  "n25s2nsns5ns18nsnsans2n9sn2s5nsn9san2s4n20s18n2s1bnsnsnsens24n12sn5sn2s5n31s8ns6nsdn25s2dn4s",
  "n6sn2s2n2s19n2s4n3s10n4sdns2n2s6nsfns28nsn5sn2s8fn2se8ns4n2s7nsns4n2s29ns4n2s21ns4n2s7nsns4",
  "n2sfns39ns4n2s43n5s1dn3s1an6s56n2s6n2s280ns1cn3s59n7s12nds13n3s2n9s12nesdns3nfs34n2sn7s8ns2",
  "nbs9n3san6san6sbn5san6s59n7s5n2s22nsn5s46nas1fn4s4n2s3n4s2ns6n7sn3s2an2s5nbs2cn4s1an6sbn3s39",
  "n2s2n3s38nsn9sns2n8s6ndsan6san6sen56s30nas4n3s8ns1dn9scn2s20n4s2n6s38nsn2s3nsnds30n8s2n5sfn3",
  "s3en5s2bn2sbnbsndsn7s4ns6ns3n2sn5sc0n40s116n2s6n2s26n2s6n2s8nsnsnsns1fn2s35nsfnsen2s6ns13n2",
  "s3ns9n11s18n8s2fn11s2n2s1bnsdn3s22n3es8cn4s29an16sbn15s714n2s179n3s2n5s2dnsn5sn2s38n7s2nfs17",
  "n9s7ns7ns7ns7ns7ns7ns7ns7n21s5en22s1ans59ncsd6n1as10ns29n6s10ns56n4s65n5s2bns33ns2ans56n9s30",
  "ns726dn3s37n9s15cn14s2fn4snas20n2s50n2s6n8sddn14s11ns3ns4ns19n2s5n4san6s38n8s44nascn18sdns26",
  "n8s19nbsncs1en6s30ns2n4s2n2s2nsdnsbn4s7ns19ns29n6s2n2s2nbs3ns8nsn2san2s20ns33nsn3s2n2s5n2sns",
  "n18s11n2s8nbs6n2s6n2s6n9s7ns7ns3cn4s75ns2ns4n3san6s2ba4ncs17n4s31n2104s16en2s6an26s7ncs5n5sn",
  "s18ns5nsns2ns2ns28an20s10n10san16s23ns13ns4n4s5ns87n4s9fns1en3s6n2s6n2s6n2s3n3s7ns7nds2n2scn",
  "s1ans13ns2nsfn2sen22s7bn5s3n4s2dn3s58nsdn3sn2fs2dn83s1dn3s31n10s1bn4s24n9s1en5s26nas1ens25n4",
  "sen2as9en2san6s24n4s24n4s28n8s34nbscnsfns7ns2nsbnsfns7ns2n3s34ncs137n9s16nas8n18s6ns2ans9n45",
  "s6n2sns2cns2n3sn2s17ns48n8s9n30s13ns2n5s21n3s1bn5s1bn26s38n4s14n2s2fnfs4ns3ns1dnas9n7s9n7s40",
  "n20s25n6scn9s36n3s1dn2s1bn5s1an7s4ncs7n50s49n37s33nds33n7s2ancsan6s26n8s18n8s2nd0s1fns2an3s",
  "n2s2n10s6n8s9n27s28n8s16nbs9n16s12n4s4n26s1cn14s17n9sns36nfs7n4s1ens2n2sncs31n4s2n2s2ns4ne",
  "s19n7san9s24n5sn9s12n8s23ns3nbs34n9sns8n4s2ns10ns14nbs12ns1cn3s2n4s6ns2n3fs7nsns4nsfnsbn6s2f",
  "ns3ndsan8s2ns8n2s2n2s16ns7ns2ns5n3snsns4n2s2n2s2n3sncs7n1csansn2sns26nsns2nfsns2n3sns3ns2n27",
  "s38n8s2n3sns15nsns3n1es30ns2n6sns2nsn2sn2s4n8sana6s2fns2n6s4n2sn2s1bn24s33n8s2nsn2s4nbsan6sd",
  "n13s2bnsns2n8s2n6san6s14n1cs1bn3sns2n4sn9s17nb9s2fn9sn2sn64s53ncs8n2sn2s8ns2ns18ns5ns2n6s4n",
  "s3n9san46s8n2s2an8s4ns4n1bsnas28n6s2n4s8n9sn6s2n3s2endsn2s9nds49n7san57sn3snsn58s22nesan6s9n",
  "s26nesns6nas1dn3s20n19sn7sn2sn4bs7ns2ns26n15sn9san6s6ns2ns25n4s2nsnsn7san6s2cn4sanf6s13n2s4",
  "n9sfns24n8s2n3s17n56snfs32nds39bn66s6fns5nbsc4na4cs63nds430n11s6n19sf9bn5s247n1ab9s1encs3n3",
  "san6c6s239n7s1fnsan4s51nsan6s1en7snas30n7sfnasans7ns15n5s13n1b0s3anc6s5bn5s19n2s19n2cs4bn5",
  "s38nbsdn40s4nes5n9s1cd6n29s20n61s73n21fds4ns7ns2ns123nfsn1ds3n2snes4n8s18cn904s6bn5sdn3s9n7",
  "san2sn2snf60sfdn3s1b4n6s17nfs11n5fs74n3csf6nas27n2s3cn5s3n16s2n7s1en4s3dn15s42n3sn7as14ncs14",
  "ncs57n9s19n87s55ns47ns2n2sn2s2n2s4nscnsns7ns41ns4n2s8ns7ns1cns4ns5nsn3s7ns154n2s124n2s232n37",
  "s4n32s8nsens7n474s1fn6s6n105s3en92s2dnas7n2san4s2n140s1en12s2cn4san5sn1d0s1cn4sand6s1en2sbn4",
  "snc0s1fns3ns2ns7n2s5n9s2ne0s7ns4ns2nsfnsc5n2s9n30s44n7sn4san4s2n311s44n4cs3dnc2s4ns1bns2nsn2",
  "snsans4nsnsn6sn4snsnsns3ns2nsn2snsnsnsnsns2nsn2s4ns7ns4ns4nsnsans11n5s3ns5ns11n34s2n10es2cn4",
  "s64ncsfn2sfnsfns25nasaen38s1dnds2cn4s9n7s2nes6n9as3d9n3s11n3sdn3sdan6scn4snfscn4s38n8san6s28",
  "n8s1en2scn4s2nes9n27s158n8sen2sdn3sbn3s39nsn4s10n2scn4san7s93ns67n405sa6e0n20s111en2s168en2",
  "s1d31nfs26en9a2s21en5e2s134bn5s212andcb86"]

/-- The runs of the table. -/
def printingTable : List (Char × Nat) := readRuns (printingRuns.flatMap String.toList)

/-- Whether a character is shown by its number. -/
def isUnprintable (c : Char) : Bool := letterAt? c.toNat printingTable = some 'n'

end CardService.Text
