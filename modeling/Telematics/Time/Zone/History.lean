import Telematics.Time.Zone

/-!
# What clocks showed before

The offsets of zones before the rules that are in force now, each with the
instant up to which it held: first the mean time of a town, then the
standard times and summer times of the law. Instants are written as seconds
since the year 1800, and offsets as seconds to the side of Greenwich on
which the zone lies.
-/

namespace Telematics.Zone

/-- New York up to 2006. -/
def newYorkHistory : List (Nat × Nat) :=
  [(2647011600, 17762), (3731382000, 18000), (3749522400, 14400),
    (3762831600, 18000), (3780972000, 14400), (3794281200, 18000),
    (3813026400, 14400), (3828150000, 18000), (3841452000, 14400),
    (3860204400, 18000), (3872901600, 14400), (3891654000, 18000),
    (3904956000, 14400), (3923103600, 18000), (3936405600, 14400),
    (3954553200, 18000), (3967855200, 14400), (3986002800, 18000),
    (3999304800, 14400), (4017452400, 18000), (4030754400, 14400),
    (4049506800, 18000), (4062808800, 14400), (4080956400, 18000),
    (4094258400, 14400), (4112406000, 18000), (4125708000, 14400),
    (4143855600, 18000), (4157157600, 14400), (4175305200, 18000),
    (4188607200, 14400), (4207359600, 18000), (4220056800, 14400),
    (4238809200, 18000), (4252111200, 14400), (4270258800, 18000),
    (4283560800, 14400), (4301708400, 18000), (4315010400, 14400),
    (4333158000, 18000), (4346460000, 14400), (4364607600, 18000),
    (4377909600, 14400), (4396662000, 18000), (4409359200, 14400),
    (4428111600, 18000), (4441413600, 14400), (4459561200, 18000),
    (4472863200, 14400), (4484444400, 18000), (4599266400, 14400),
    (4617414000, 18000), (4630716000, 14400), (4648863600, 18000),
    (4662165600, 14400), (4680313200, 18000), (4693615200, 14400),
    (4711762800, 18000), (4725064800, 14400), (4743817200, 18000),
    (4756514400, 14400), (4775266800, 18000), (4788568800, 14400),
    (4806716400, 18000), (4820018400, 14400), (4838166000, 18000),
    (4851468000, 14400), (4869615600, 18000), (4882917600, 14400),
    (4901065200, 18000), (4917391200, 14400), (4933119600, 18000),
    (4948840800, 14400), (4964569200, 18000), (4980290400, 14400),
    (4996018800, 18000), (5011740000, 14400), (5027468400, 18000),
    (5043189600, 14400), (5058918000, 18000), (5075244000, 14400),
    (5090972400, 18000), (5106693600, 14400), (5122422000, 18000),
    (5138143200, 14400), (5153871600, 18000), (5169592800, 14400),
    (5185321200, 18000), (5201042400, 14400), (5216770800, 18000),
    (5233096800, 14400), (5248220400, 18000), (5264546400, 14400),
    (5280274800, 18000), (5295996000, 14400), (5311724400, 18000),
    (5327445600, 14400), (5343174000, 18000), (5358895200, 14400),
    (5374623600, 18000), (5390344800, 14400), (5406073200, 18000),
    (5422399200, 14400), (5438127600, 18000), (5453848800, 14400),
    (5469577200, 18000), (5485298400, 14400), (5491350000, 18000),
    (5516748000, 14400), (5527033200, 18000), (5548197600, 14400),
    (5563926000, 18000), (5580252000, 14400), (5595375600, 18000),
    (5611701600, 14400), (5627430000, 18000), (5643151200, 14400),
    (5658879600, 18000), (5674600800, 14400), (5690329200, 18000),
    (5706050400, 14400), (5721778800, 18000), (5737500000, 14400),
    (5753228400, 18000), (5769554400, 14400), (5784678000, 18000),
    (5801004000, 14400), (5816732400, 18000), (5832453600, 14400),
    (5848182000, 18000), (5863903200, 14400), (5879631600, 18000),
    (5895352800, 14400), (5909266800, 18000), (5926802400, 14400),
    (5940716400, 18000), (5958856800, 14400), (5972166000, 18000),
    (5990306400, 14400), (6003615600, 18000), (6021756000, 14400),
    (6035670000, 18000), (6053205600, 14400), (6067119600, 18000),
    (6084655200, 14400), (6098569200, 18000), (6116709600, 14400),
    (6130018800, 18000), (6148159200, 14400), (6161468400, 18000),
    (6179608800, 14400), (6193522800, 18000), (6211058400, 14400),
    (6224972400, 18000), (6242508000, 14400), (6256422000, 18000),
    (6273957600, 14400), (6287871600, 18000), (6306012000, 14400),
    (6319321200, 18000), (6337461600, 14400), (6350770800, 18000),
    (6368911200, 14400), (6382825200, 18000), (6400360800, 14400),
    (6414274800, 18000), (6431810400, 14400), (6445724400, 18000),
    (6463864800, 14400), (6477174000, 18000), (6495314400, 14400),
    (6508623600, 18000), (6526764000, 14400)]

/-- Berlin up to 1995. -/
def berlinHistory : List (Nat × Nat) :=
  [(2942607992, 3208), (3670956000, 3600), (3684178800, 7200),
    (3701206800, 3600), (3714512400, 7200), (3732656400, 3600),
    (3745962000, 7200), (4425757200, 3600), (4507405200, 7200),
    (4520106000, 3600), (4536435600, 7200), (4552160400, 3600),
    (4567885200, 7200), (4583610000, 3600), (4588099200, 7200),
    (4598726400, 10800), (4603482000, 7200), (4616182800, 3600),
    (4631389200, 7200), (4647031200, 3600), (4650051600, 7200),
    (4654281600, 10800), (4662752400, 7200), (4679686800, 3600),
    (4694202000, 7200), (4710531600, 3600), (4725651600, 7200),
    (5688493200, 3600), (5703613200, 7200), (5719338000, 3600),
    (5735062800, 7200), (5750787600, 3600), (5766512400, 7200),
    (5782237200, 3600), (5797962000, 7200), (5813686800, 3600),
    (5830016400, 7200), (5845741200, 3600), (5861466000, 7200),
    (5877190800, 3600), (5892915600, 7200), (5908640400, 3600),
    (5924365200, 7200), (5940090000, 3600), (5955814800, 7200),
    (5971539600, 3600), (5987264400, 7200), (6002989200, 3600),
    (6019318800, 7200), (6035043600, 3600), (6050768400, 7200),
    (6066493200, 3600), (6082218000, 7200), (6097942800, 3600),
    (6113667600, 7200), (6129392400, 3600), (6145117200, 7200),
    (6160842000, 3600), (6176566800, 7200)]

/-- Moscow up to 2014. -/
def moscowHistory : List (Nat × Nat) :=
  [(3676397383, 9017), (3707843321, 9079), (3723308921, 12679),
    (3736697321, 9079), (3745945721, 16279), (3768233321, 12679),
    (3770841600, 16279), (3774801600, 14400), (3822235200, 10800),
    (3825169200, 14400), (3839338800, 18000), (3841934400, 14400),
    (3873474000, 10800), (4117125600, 7200), (5719582800, 10800),
    (5735390400, 14400), (5751118800, 10800), (5766926400, 14400),
    (5782654800, 10800), (5798462400, 14400), (5814277200, 10800),
    (5830009200, 14400), (5845734000, 10800), (5861458800, 14400),
    (5877183600, 10800), (5892908400, 14400), (5908633200, 10800),
    (5924358000, 14400), (5940082800, 10800), (5955807600, 14400),
    (5971532400, 10800), (5987257200, 14400), (6002982000, 10800),
    (6019311600, 14400), (6050764800, 10800), (6060441600, 7200),
    (6066486000, 10800), (6082210800, 14400), (6097935600, 10800),
    (6113660400, 14400), (6129385200, 10800), (6145110000, 14400),
    (6160834800, 10800), (6176559600, 14400), (6192889200, 10800),
    (6211033200, 14400), (6224338800, 10800), (6242482800, 14400),
    (6255788400, 10800), (6273932400, 14400), (6287238000, 10800),
    (6305986800, 14400), (6318687600, 10800), (6337436400, 14400),
    (6350137200, 10800), (6368886000, 14400), (6382191600, 10800),
    (6400335600, 14400), (6413641200, 10800), (6431785200, 14400),
    (6445090800, 10800), (6463839600, 14400), (6476540400, 10800),
    (6495289200, 14400), (6507990000, 10800), (6526738800, 14400),
    (6539439600, 10800), (6558188400, 14400), (6571494000, 10800),
    (6589638000, 14400), (6602943600, 10800), (6621087600, 14400),
    (6634393200, 10800), (6653142000, 14400), (6665842800, 10800),
    (6778936800, 14400)]

/-- Tokyo up to 1951. -/
def tokyoHistory : List (Nat × Nat) :=
  [(2776950000, 33539), (4680860400, 32400), (4692351600, 36000),
    (4709890800, 32400), (4723801200, 36000), (4744364400, 32400),
    (4755250800, 36000), (4775814000, 32400), (4786700400, 36000)]

/-- Kolkata up to 1945. -/
def kolkataHistory : List (Nat × Nat) :=
  [(1719425192, 21208), (2208967600, 21200), (3344956730, 19270),
    (4473081000, 19800), (4492603800, 23400), (4502025000, 19800),
    (4600517400, 23400)]

/-- The start of the year 1800. -/
def historyStart : Int := (⟨1800, 1, 1⟩ : Date).toDays * 86400

/-- The history of a zone east of Greenwich. -/
def eastward (changes : List (Nat × Nat)) : List (Int × Int) :=
  changes.map fun (limit, offset) => (historyStart + limit, offset)

/-- The history of a zone west of Greenwich. -/
def westward (changes : List (Nat × Nat)) : List (Int × Int) :=
  changes.map fun (limit, offset) => (historyStart + limit, -offset)

/-- Histories, by the names of the zones that have them. -/
def histories : List (List String × List (Int × Int)) :=
  [(["America/New_York", "US/Eastern"], westward newYorkHistory),
    (["Europe/Berlin", "Europe/Copenhagen", "Europe/Oslo", "Europe/Stockholm",
      "Arctic/Longyearbyen", "Atlantic/Jan_Mayen"], eastward berlinHistory),
    (["Europe/Moscow", "W-SU"], eastward moscowHistory),
    (["Asia/Tokyo", "Japan"], eastward tokyoHistory),
    (["Asia/Kolkata", "Asia/Calcutta"], eastward kolkataHistory)]

/-- The history of the zone of a name; empty where it is not recorded. -/
def historyOf (name : String) : List (Int × Int) :=
  ((histories.find? (·.1.contains name)).map (·.2)).getD []

end Telematics.Zone
